import Dawn.Native.Texture

/-!
# OpenGL textures

`opengl::Texture` keeps its contents in the driver under `mHandle`; here they are a field of the
texture. `ClearTexture` has three paths. A renderable color format is cleared level by level
with `ClearTexSubImage`; a depth or stencil format through a framebuffer; any other format by
filling a staging buffer and uploading it level by level with `TexSubImage2D`. Driver calls are
modelled by what they do to the contents, GL errors included: a call that GL rejects writes
nothing. GL state that no content depends on (the bound buffer and texture, the depth and
stencil masks, `GL_UNPACK_IMAGE_HEIGHT`) is left out.

`EnsureSubresourceContentInitialized` clears a range with `ClearTexture` unless every
subresource of it is initialized, hands any error to the device, and marks the whole range.
-/

namespace Dawn.Native.OpenGL

/-- The texture targets of a 2D texture. -/
inductive GLenum
  | texture2D
  | texture2DArray
  | texture2DMultisample
  deriving DecidableEq, Repr

/-- `TargetForTexture` for a 2D texture. -/
def targetForTexture (arrayLayerCount sampleCount : UInt32) : GLenum :=
  if arrayLayerCount > 1 then .texture2DArray
  else if sampleCount > 1 then .texture2DMultisample
  else .texture2D

/-- A texture has the array target exactly when it has more than one layer. -/
theorem targetForTexture_eq_texture2DArray {arrayLayerCount sampleCount : UInt32} :
    targetForTexture arrayLayerCount sampleCount = .texture2DArray ↔
      1 < arrayLayerCount.toNat := by
  unfold targetForTexture
  split_ifs with layered
  · exact iff_of_true rfl layered
  · exact iff_of_false nofun layered
  · exact iff_of_false nofun layered

/-- What the OpenGL clear takes from outside the texture: `kTextureRowPitchAlignment` (a
constant of `common/Constants.h`, not in this repository), the error, if any, of creating and
mapping a staging buffer of a given size, and how the driver clears the depth and stencil
aspects of an image to a value. -/
structure Environment where
  kTextureRowPitchAlignment : UInt32
  mapAtCreation : UInt64 → Option ErrorData
  clearBuffer : (doDepthClear doStencilClear : Bool) → UInt8 → Image → Image

/-- Modelled from the spec: `Align` (`common/Math.h`, not in this repository) rounds `value` up to
a multiple of `alignment`. It returns a `uint32_t`, so it is computed in 32 bits. -/
def align (value alignment : UInt32) : UInt32 :=
  (value + (alignment - 1)) / alignment * alignment

/-- The staging buffer once `std::fill` has set each of its `uint32_t` words to `clearColor`. -/
structure StagingBuffer where
  size : Nat
  clearColor : UInt8

/-- The byte at `offset`; words are little-endian. -/
def StagingBuffer.byte (buffer : StagingBuffer) (offset : Nat) : UInt8 :=
  if offset % 4 = 0 then buffer.clearColor else 0

/-- `GL_UNPACK_ALIGNMENT`, which the backend leaves at its initial value. -/
def unpackAlignment : Nat := 4

/-- `PixelStorei(GL_UNPACK_ROW_LENGTH, param)` with a `uint32_t` argument. As a `GLint` a value of
2^31 or more is negative, which GL rejects, keeping the `current` row length. -/
def pixelStoreiRowLength (current : Nat) (param : UInt32) : Nat :=
  if param.toNat < 2147483648 then param.toNat else current

/-- The bytes from the start of one unpacked row to the next: `GL_UNPACK_ROW_LENGTH` texels, or
`width` texels when it is 0, rounded up to `GL_UNPACK_ALIGNMENT`. -/
def unpackRowStride (rowLength width texelSize : Nat) : Nat :=
  ((if rowLength = 0 then width else rowLength) * texelSize + unpackAlignment - 1) /
    unpackAlignment * unpackAlignment

/-- The rows `TexSubImage2D` unpacks from the buffer, `stride` bytes apart. -/
def unpackedImage (buffer : StagingBuffer) (stride : Nat) : Image :=
  fun row byte => buffer.byte (row * stride + byte)

/-- GL accepts `TexSubImage2D` of `height` rows of `width` texels of `texelSize` bytes, `stride`
bytes apart, from the bound pixel unpack buffer when the target is `GL_TEXTURE_2D` and every byte
it reads lies inside the buffer. -/
def TexSubImage2DAccepts (target : GLenum) (width height texelSize stride : Nat)
    (buffer : StagingBuffer) : Prop :=
  target = .texture2D ∧ (height - 1) * stride + width * texelSize ≤ buffer.size

instance (target : GLenum) (width height texelSize stride : Nat) (buffer : StagingBuffer) :
    Decidable (TexSubImage2DAccepts target width height texelSize stride buffer) :=
  inferInstanceAs (Decidable (_ ∧ _))

/-- A buffer filled with zero words unpacks to zeros at any stride. -/
@[simp] theorem unpackedImage_of_zero {size stride : Nat} :
    unpackedImage ⟨size, 0⟩ stride = Image.fill 0 := by
  funext row byte
  simp [unpackedImage, StagingBuffer.byte, Image.fill]

/-- `opengl::Texture`: the frontend state and the contents of each subresource, by mip level and
array layer. -/
structure Texture extends TextureBase where
  contents : Nat → Nat → Image

namespace Texture

variable (texture : Texture) (env : Environment) (range : SubresourceRange)

/-- `Texture::GetGLTarget`: `mTarget`, which the constructor sets by `TargetForTexture` from the
descriptor the texture was created with. -/
def getGLTarget : GLenum := targetForTexture texture.arrayLayerCount texture.sampleCount

/-- The texture with `image` as the contents of the subresource at `level` and `layer`. -/
def writeSubresource (level layer : Nat) (image : Image) : Texture :=
  { texture with
    contents := fun atLevel atLayer =>
      if atLevel = level ∧ atLayer = layer then image else texture.contents atLevel atLayer }

/-- `ClearTexSubImage(mHandle, level, 0, 0, baseArrayLayer, width, height, layerCount, ...)` over
the whole extent of `level`, with clear data whose every byte is `value`. -/
def clearTexSubImage (level baseArrayLayer layerCount : Nat) (value : UInt8) : Texture :=
  { texture with
    contents := fun atLevel atLayer =>
      if atLevel = level ∧ atLayer ∈ List.range' baseArrayLayer layerCount then Image.fill value
      else texture.contents atLevel atLayer }

/-- `TexSubImage2D(target, level, 0, 0, width, height, ...)` from the staging buffer bound as the
pixel unpack buffer: when GL accepts the call, layer 0 of `level` takes the unpacked rows. -/
def texSubImage2D (target : GLenum) (level width height rowLength : Nat)
    (buffer : StagingBuffer) : Texture :=
  let texelSize := texture.format.blockByteSize.toNat
  let stride := unpackRowStride rowLength width texelSize
  if TexSubImage2DAccepts target width height texelSize stride buffer then
    texture.writeSubresource level 0 (unpackedImage buffer stride)
  else texture

/-- The staging buffer's `rowPitch`, a `uint32_t`. -/
def rowPitch : UInt32 :=
  align (texture.width / texture.format.blockWidth * texture.format.blockByteSize)
    env.kTextureRowPitchAlignment

/-- `descriptor.size = rowPitch * (height / blockHeight)`: a product of two `uint32_t` values,
computed in 32 bits and then widened to the `uint64_t` size. -/
def stagingBufferSize : UInt64 :=
  (texture.rowPitch env * (texture.height / texture.format.blockHeight)).toUInt64

/-- `GL_UNPACK_ROW_LENGTH` once the staging path has set it to
`(rowPitch / blockByteSize) * blockWidth`; it is 0 before, as every upload of the backend
resets it. -/
def initialRowLength : Nat :=
  pixelStoreiRowLength 0
    (texture.rowPitch env / texture.format.blockByteSize * texture.format.blockWidth)

/-- One iteration of the upload loop over the texture and the current `GL_UNPACK_ROW_LENGTH`:
`TexSubImage2D` of the whole of `level`, after which the row length is reset to 0. -/
def uploadLevel (buffer : StagingBuffer) (state : Texture × Nat) (level : Nat) : Texture × Nat :=
  let size := state.1.getMipLevelPhysicalSize level
  (state.1.texSubImage2D state.1.getGLTarget level size.1 size.2 state.2 buffer, 0)

/-- The stride at which the upload of `level` unpacks rows when the row length is `rowLength`. -/
def uploadStride (level rowLength : Nat) : Nat :=
  unpackRowStride rowLength (texture.getMipLevelPhysicalSize level).1
    texture.format.blockByteSize.toNat

/-- GL accepts the upload of `level` from `buffer` when the row length is `rowLength`. -/
def UploadAccepted (buffer : StagingBuffer) (level rowLength : Nat) : Prop :=
  TexSubImage2DAccepts texture.getGLTarget (texture.getMipLevelPhysicalSize level).1
    (texture.getMipLevelPhysicalSize level).2 texture.format.blockByteSize.toNat
    (texture.uploadStride level rowLength) buffer

instance (buffer : StagingBuffer) (level rowLength : Nat) :
    Decidable (texture.UploadAccepted buffer level rowLength) :=
  inferInstanceAs (Decidable (TexSubImage2DAccepts _ _ _ _ _ _))

/-- The row length in effect when the upload loop of `range` reaches `level`. -/
def levelRowLength (level : Nat) : Nat :=
  if level = range.baseMipLevel then texture.initialRowLength env else 0

/-- The upload loop of the staging path. -/
def uploadStagingBuffer (buffer : StagingBuffer) : Texture :=
  (range.levels.foldl (uploadLevel buffer) (texture, texture.initialRowLength env)).1

/-- The depth-stencil path: level 0 is attached to a framebuffer with
`FramebufferTexture2D(GetGLTarget())` and the format's aspects are cleared. GL rejects an array
target there, which leaves the framebuffer without an attachment. -/
def clearDepthStencil (clearColor : UInt8) : Texture :=
  if texture.getGLTarget = .texture2DArray then texture
  else
    texture.writeSubresource 0 0
      (env.clearBuffer texture.format.hasDepth texture.format.hasStencil clearColor
        (texture.contents 0 0))

/-- `Texture::ClearTexture`. -/
def clearTexture (clearValue : ClearValue) : Except ErrorData Texture :=
  if texture.format.isCompressed then .ok texture
  else
    let clearColor : UInt8 := if clearValue = .zero then 0 else 1
    if texture.format.isRenderable then
      if texture.format.hasDepthOrStencil then .ok (texture.clearDepthStencil env clearColor)
      else
        let clearColor : UInt8 := if clearValue = .zero then 0 else 255
        .ok (range.levels.foldl (fun texture level =>
          texture.clearTexSubImage level range.baseArrayLayer range.layerCount clearColor) texture)
    else if texture.stagingBufferSize env > 4294967295 then
      .error ⟨.outOfMemory, "Unable to allocate buffer."⟩
    else
      match env.mapAtCreation (texture.stagingBufferSize env) with
      | some error => .error error
      | none =>
        .ok (texture.uploadStagingBuffer env range
          ⟨(texture.stagingBufferSize env).toNat, clearColor⟩)

/-- `Texture::EnsureSubresourceContentInitialized`. -/
def ensureSubresourceContentInitialized (device : Device) (isLazyClear : Bool) :
    Device × Texture :=
  if !device.lazyClearResourceOnFirstUse then (device, texture)
  else if !texture.isSubresourceContentInitialized range then
    let result := texture.clearTexture env range .zero
    let device := device.consumedError (result.map fun _ => ())
    let device := if isLazyClear then device.incrementLazyClearCountForTesting else device
    let texture := match result with
      | .ok cleared => cleared
      | .error _ => texture
    (device, { texture with toTextureBase := texture.setIsSubresourceContentInitialized range true })
  else (device, texture)

/-! ### What each call writes -/

variable {texture env range} {level layer atLevel atLayer : Nat}

/-- A texture is its frontend state and its contents. -/
theorem ext_toTextureBase {other : Texture} (base : other.toTextureBase = texture.toTextureBase)
    (contents : other.contents = texture.contents) : other = texture := by
  cases other; cases texture; cases base; cases contents; rfl

@[simp] theorem writeSubresource_toTextureBase {image : Image} :
    (texture.writeSubresource level layer image).toTextureBase = texture.toTextureBase := rfl

@[simp] theorem writeSubresource_contents {image : Image} :
    (texture.writeSubresource level layer image).contents atLevel atLayer =
      if atLevel = level ∧ atLayer = layer then image else texture.contents atLevel atLayer := rfl

@[simp] theorem clearTexSubImage_toTextureBase {baseArrayLayer layerCount : Nat} {value : UInt8} :
    (texture.clearTexSubImage level baseArrayLayer layerCount value).toTextureBase =
      texture.toTextureBase := rfl

@[simp] theorem clearTexSubImage_contents {baseArrayLayer layerCount : Nat} {value : UInt8} :
    (texture.clearTexSubImage level baseArrayLayer layerCount value).contents atLevel atLayer =
      if atLevel = level ∧ atLayer ∈ List.range' baseArrayLayer layerCount then Image.fill value
      else texture.contents atLevel atLayer := rfl

variable {target : GLenum} {width height rowLength : Nat} {buffer : StagingBuffer}

@[simp] theorem texSubImage2D_toTextureBase :
    (texture.texSubImage2D target level width height rowLength buffer).toTextureBase =
      texture.toTextureBase := by
  simp only [texSubImage2D]; split <;> rfl

theorem texSubImage2D_contents :
    (texture.texSubImage2D target level width height rowLength buffer).contents atLevel atLayer =
      if TexSubImage2DAccepts target width height texture.format.blockByteSize.toNat
          (unpackRowStride rowLength width texture.format.blockByteSize.toNat) buffer ∧
          atLevel = level ∧ atLayer = 0 then
        unpackedImage buffer (unpackRowStride rowLength width texture.format.blockByteSize.toNat)
      else texture.contents atLevel atLayer := by
  by_cases accepted : TexSubImage2DAccepts target width height texture.format.blockByteSize.toNat
    (unpackRowStride rowLength width texture.format.blockByteSize.toNat) buffer <;>
  simp [texSubImage2D, accepted]

@[simp] theorem clearDepthStencil_toTextureBase {clearColor : UInt8} :
    (texture.clearDepthStencil env clearColor).toTextureBase = texture.toTextureBase := by
  unfold clearDepthStencil; split <;> rfl

/-- A loop of `ClearTexSubImage` calls clears the listed levels in the given layers. -/
theorem foldl_clearTexSubImage_contents (levels : List Nat) (texture : Texture)
    {baseArrayLayer layerCount : Nat} {value : UInt8} :
    (levels.foldl (fun texture level => texture.clearTexSubImage level baseArrayLayer layerCount
        value) texture).contents atLevel atLayer =
      if atLevel ∈ levels ∧ atLayer ∈ List.range' baseArrayLayer layerCount then Image.fill value
      else texture.contents atLevel atLayer := by
  induction levels generalizing texture with
  | nil => simp
  | cons level levels ih =>
    rw [List.foldl_cons, ih, clearTexSubImage_contents]
    split_ifs <;> simp_all

theorem foldl_clearTexSubImage_toTextureBase (levels : List Nat) (texture : Texture)
    {baseArrayLayer layerCount : Nat} {value : UInt8} :
    (levels.foldl (fun texture level => texture.clearTexSubImage level baseArrayLayer layerCount
        value) texture).toTextureBase = texture.toTextureBase := by
  induction levels generalizing texture with
  | nil => rfl
  | cons level levels ih => exact ih _

/-! ### The upload loop -/

theorem uploadLevel_eq {state : Texture × Nat} :
    uploadLevel buffer state level = ((uploadLevel buffer state level).1, 0) := rfl

@[simp] theorem uploadLevel_toTextureBase {state : Texture × Nat} :
    (uploadLevel buffer state level).1.toTextureBase = state.1.toTextureBase :=
  texSubImage2D_toTextureBase

theorem uploadLevel_contents :
    (uploadLevel buffer (texture, rowLength) level).1.contents atLevel atLayer =
      if texture.UploadAccepted buffer level rowLength ∧ atLevel = level ∧ atLayer = 0 then
        unpackedImage buffer (texture.uploadStride level rowLength)
      else texture.contents atLevel atLayer :=
  texSubImage2D_contents

section SameBase

variable {other : Texture} (same : other.toTextureBase = texture.toTextureBase)
include same

theorem uploadStride_congr :
    other.uploadStride level rowLength = texture.uploadStride level rowLength := by
  simp only [uploadStride, same]

theorem uploadAccepted_congr :
    other.UploadAccepted buffer level rowLength ↔ texture.UploadAccepted buffer level rowLength := by
  simp only [UploadAccepted, getGLTarget, uploadStride_congr same, same]

end SameBase

/-- After the first level the row length is 0, and every level the loop visits is uploaded
alike. -/
theorem foldl_uploadLevel_contents (levels : List Nat) (texture : Texture) :
    (levels.foldl (uploadLevel buffer) (texture, 0)).1.contents atLevel atLayer =
      if atLevel ∈ levels ∧ atLayer = 0 ∧ texture.UploadAccepted buffer atLevel 0 then
        unpackedImage buffer (texture.uploadStride atLevel 0)
      else texture.contents atLevel atLayer := by
  induction levels generalizing texture with
  | nil => simp
  | cons level levels ih =>
    rw [List.foldl_cons, uploadLevel_eq, ih]
    simp only [uploadAccepted_congr uploadLevel_toTextureBase,
      uploadStride_congr uploadLevel_toTextureBase, uploadLevel_contents]
    by_cases here : atLevel = level
    · subst here; split_ifs <;> simp_all
    · simp [here]

/-- The staging upload writes layer 0 of each level of the range that GL accepts, with the row
length in effect at that level. -/
theorem uploadStagingBuffer_contents :
    (texture.uploadStagingBuffer env range buffer).contents atLevel atLayer =
      if atLevel ∈ range.levels ∧ atLayer = 0 ∧
          texture.UploadAccepted buffer atLevel (texture.levelRowLength env range atLevel) then
        unpackedImage buffer (texture.uploadStride atLevel (texture.levelRowLength env range atLevel))
      else texture.contents atLevel atLayer := by
  unfold uploadStagingBuffer SubresourceRange.levels
  cases count : range.levelCount with
  | zero => simp
  | succ n =>
    rw [List.range'_succ, List.foldl_cons, uploadLevel_eq, foldl_uploadLevel_contents]
    simp only [uploadAccepted_congr uploadLevel_toTextureBase,
      uploadStride_congr uploadLevel_toTextureBase, uploadLevel_contents]
    by_cases here : atLevel = range.baseMipLevel
    · subst here
      simp [levelRowLength, and_comm]
    · simp [levelRowLength, here]

theorem foldl_uploadLevel_toTextureBase (levels : List Nat) (state : Texture × Nat) :
    (levels.foldl (uploadLevel buffer) state).1.toTextureBase = state.1.toTextureBase := by
  induction levels generalizing state with
  | nil => rfl
  | cons level levels ih => exact (ih _).trans uploadLevel_toTextureBase

theorem uploadStagingBuffer_toTextureBase :
    (texture.uploadStagingBuffer env range buffer).toTextureBase = texture.toTextureBase :=
  foldl_uploadLevel_toTextureBase _ _

/-- A staging upload that GL rejects at every level leaves the texture as it was. -/
theorem uploadStagingBuffer_of_rejected
    (rejected : ∀ level rowLength, ¬texture.UploadAccepted buffer level rowLength) :
    texture.uploadStagingBuffer env range buffer = texture :=
  ext_toTextureBase uploadStagingBuffer_toTextureBase
    (funext fun _ => funext fun _ => by simp [uploadStagingBuffer_contents, rejected])

/-! ### The paths of `ClearTexture` -/

variable {clearValue : ClearValue}

theorem clearTexture_of_isCompressed (compressed : texture.format.isCompressed = true) :
    texture.clearTexture env range clearValue = .ok texture := by
  simp [clearTexture, compressed]

theorem clearTexture_of_color (uncompressed : texture.format.isCompressed = false)
    (renderable : texture.format.isRenderable = true)
    (color : texture.format.hasDepthOrStencil = false) :
    texture.clearTexture env range clearValue =
      .ok (range.levels.foldl (fun texture level => texture.clearTexSubImage level
        range.baseArrayLayer range.layerCount (if clearValue = .zero then 0 else 255)) texture) := by
  simp [clearTexture, uncompressed, renderable, color]

theorem clearTexture_of_depthStencil (uncompressed : texture.format.isCompressed = false)
    (renderable : texture.format.isRenderable = true)
    (depthStencil : texture.format.hasDepthOrStencil = true) :
    texture.clearTexture env range clearValue =
      .ok (texture.clearDepthStencil env (if clearValue = .zero then 0 else 1)) := by
  simp [clearTexture, uncompressed, renderable, depthStencil]

theorem stagingBufferSize_toNat :
    (texture.stagingBufferSize env).toNat =
      (texture.rowPitch env).toNat * (texture.height / texture.format.blockHeight).toNat %
        4294967296 := by
  rw [stagingBufferSize, UInt32.toUInt64_toNat, UInt32.toNat_mul]

/-- The out-of-memory guard of the staging path never fires: `descriptor.size` is a 32-bit
product widened to 64 bits. -/
theorem not_stagingBufferSize_gt : ¬texture.stagingBufferSize env > 4294967295 := by
  intro over
  have fits := (texture.rowPitch env * (texture.height / texture.format.blockHeight)).toNat_lt
  have above : 4294967295 < (texture.stagingBufferSize env).toNat := over
  rw [stagingBufferSize, UInt32.toUInt64_toNat] at above
  omega

section Staging

variable (uncompressed : texture.format.isCompressed = false)
  (nonRenderable : texture.format.isRenderable = false)
include uncompressed nonRenderable

theorem clearTexture_of_mapped (mapped : env.mapAtCreation (texture.stagingBufferSize env) = none) :
    texture.clearTexture env range clearValue =
      .ok (texture.uploadStagingBuffer env range
        ⟨(texture.stagingBufferSize env).toNat, if clearValue = .zero then 0 else 1⟩) := by
  simp [clearTexture, uncompressed, nonRenderable, not_stagingBufferSize_gt, mapped]

theorem clearTexture_of_not_mapped {error : ErrorData}
    (failed : env.mapAtCreation (texture.stagingBufferSize env) = some error) :
    texture.clearTexture env range clearValue = .error error := by
  simp [clearTexture, uncompressed, nonRenderable, not_stagingBufferSize_gt, failed]

end Staging

/-- Clearing changes the contents only. -/
theorem clearTexture_toTextureBase {cleared : Texture}
    (ok : texture.clearTexture env range clearValue = .ok cleared) :
    cleared.toTextureBase = texture.toTextureBase := by
  cases compressed : texture.format.isCompressed
  · cases renderable : texture.format.isRenderable
    · cases mapped : env.mapAtCreation (texture.stagingBufferSize env)
      · rw [clearTexture_of_mapped compressed renderable mapped, Except.ok.injEq] at ok
        rw [← ok, uploadStagingBuffer_toTextureBase]
      · rw [clearTexture_of_not_mapped compressed renderable mapped] at ok
        cases ok
    · cases depthStencil : texture.format.hasDepthOrStencil
      · rw [clearTexture_of_color compressed renderable depthStencil, Except.ok.injEq] at ok
        rw [← ok, foldl_clearTexSubImage_toTextureBase]
      · rw [clearTexture_of_depthStencil compressed renderable depthStencil, Except.ok.injEq] at ok
        rw [← ok, clearDepthStencil_toTextureBase]
  · rw [clearTexture_of_isCompressed compressed, Except.ok.injEq] at ok
    rw [ok]

/-! ### `EnsureSubresourceContentInitialized` -/

variable {device : Device} {isLazyClear : Bool}

theorem ensure_of_lazyClear_disabled (disabled : device.lazyClearResourceOnFirstUse = false) :
    texture.ensureSubresourceContentInitialized env range device isLazyClear = (device, texture) := by
  simp [ensureSubresourceContentInitialized, disabled]

theorem ensure_of_initialized (initialized : texture.isSubresourceContentInitialized range = true) :
    texture.ensureSubresourceContentInitialized env range device isLazyClear = (device, texture) := by
  simp [ensureSubresourceContentInitialized, initialized]

section Uninitialized

variable (enabled : device.lazyClearResourceOnFirstUse = true)
  (uninitialized : texture.isSubresourceContentInitialized range = false)
include enabled uninitialized

theorem ensure_of_cleared {cleared : Texture}
    (ok : texture.clearTexture env range .zero = .ok cleared) :
    texture.ensureSubresourceContentInitialized env range device isLazyClear =
      (if isLazyClear then device.incrementLazyClearCountForTesting else device,
        { cleared with toTextureBase := cleared.setIsSubresourceContentInitialized range true }) := by
  simp [ensureSubresourceContentInitialized, enabled, uninitialized, ok, Except.map,
    Device.consumedError]

theorem ensure_of_clear_failed {error : ErrorData}
    (failed : texture.clearTexture env range .zero = .error error) :
    texture.ensureSubresourceContentInitialized env range device isLazyClear =
      (if isLazyClear then (device.consumedError (.error error)).incrementLazyClearCountForTesting
        else device.consumedError (.error error),
        { texture with toTextureBase := texture.setIsSubresourceContentInitialized range true }) := by
  simp [ensureSubresourceContentInitialized, enabled, uninitialized, failed, Except.map]

end Uninitialized

/-- With the toggle on, a clear that writes nothing leaves lazy clearing only the marking. -/
theorem ensure_of_clear_unwritten (enabled : device.lazyClearResourceOnFirstUse = true)
    (unwritten : ∀ cleared, texture.clearTexture env range .zero = .ok cleared → cleared = texture) :
    (texture.ensureSubresourceContentInitialized env range device isLazyClear).2 =
      { texture with toTextureBase := texture.setIsSubresourceContentInitialized range true } := by
  cases initialized : texture.isSubresourceContentInitialized range
  · cases result : texture.clearTexture env range .zero with
    | ok cleared => rw [ensure_of_cleared enabled initialized result, unwritten cleared result]
    | error error => rw [ensure_of_clear_failed enabled initialized result]
  · rw [ensure_of_initialized initialized,
      TextureBase.setIsSubresourceContentInitialized_of_initialized initialized]

end Texture

end Dawn.Native.OpenGL

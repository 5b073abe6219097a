import Mathlib.Data.String.Basic

/-!
# Textures

The parts of `TextureBase` and of the device that lazy clearing reads and writes: a texture's
format, extent and subresource counts, one "content initialized" flag per subresource, and the
device's `LazyClearResourceOnFirstUse` toggle, lazy clear counter and consumed errors. The
frontend texture code is not part of this repository: `IsSubresourceContentInitialized`,
`SetIsSubresourceContentInitialized` and the mip chain are modelled from their use in the
OpenGL backend.

A subresource is a mip level and an array layer. Its contents are bytes addressed by block row
and byte within the row. Only the bytes inside a subresource's extent exist, so an operation
that writes a whole subresource may write every address.
-/

namespace Dawn.Native

/-- `dawn_native::Format`, the fields the texture code reads. Every uncompressed format of the
format table has 1×1 blocks, so a block is a texel. -/
structure Format where
  isRenderable : Bool
  isCompressed : Bool
  hasDepth : Bool
  hasStencil : Bool
  blockByteSize : UInt32
  blockWidth : UInt32
  blockHeight : UInt32
  uncompressed_texel : isCompressed = false → blockWidth = 1 ∧ blockHeight = 1
  deriving DecidableEq

/-- `Format::HasDepthOrStencil`. -/
def Format.hasDepthOrStencil (format : Format) : Bool :=
  format.hasDepth || format.hasStencil

/-- `TextureBase::ClearValue`. -/
inductive ClearValue
  | zero
  | nonZero
  deriving DecidableEq, Repr

/-- `InternalErrorType`: the kinds of error a `MaybeError` carries. -/
inductive InternalErrorType
  | validation
  | deviceLost
  | internal
  | outOfMemory
  deriving DecidableEq, Repr

/-- `ErrorData`: the kind of an error and its message. -/
structure ErrorData where
  type : InternalErrorType
  message : String
  deriving DecidableEq, Repr

/-- `MaybeError`. -/
abbrev MaybeError := Except ErrorData Unit

/-- The contents of one subresource: a byte for each block row and byte within the row. -/
abbrev Image := Nat → Nat → UInt8

/-- An image whose every byte is `value`. -/
def Image.fill (value : UInt8) : Image := fun _ _ => value

/-- The range of subresources that the texture methods take as four arguments. -/
structure SubresourceRange where
  baseMipLevel : Nat
  levelCount : Nat
  baseArrayLayer : Nat
  layerCount : Nat
  deriving DecidableEq, Repr

namespace SubresourceRange

variable (range : SubresourceRange)

/-- The mip levels of the range, in the order the code's loops visit them. -/
def levels : List Nat := List.range' range.baseMipLevel range.levelCount

/-- The array layers of the range, in the order the code's loops visit them. -/
def layers : List Nat := List.range' range.baseArrayLayer range.layerCount

/-- The range holds the subresource at `level` and `layer`. -/
def Contains (level layer : Nat) : Prop := level ∈ range.levels ∧ layer ∈ range.layers

instance (level layer : Nat) : Decidable (range.Contains level layer) :=
  inferInstanceAs (Decidable (_ ∧ _))

variable {range} {level layer : Nat}

@[simp] theorem mem_levels :
    level ∈ range.levels ↔
      range.baseMipLevel ≤ level ∧ level < range.baseMipLevel + range.levelCount :=
  List.mem_range'_1

@[simp] theorem mem_layers :
    layer ∈ range.layers ↔
      range.baseArrayLayer ≤ layer ∧ layer < range.baseArrayLayer + range.layerCount :=
  List.mem_range'_1

end SubresourceRange

/-- The state of a `TextureBase` that lazy clearing reads: its format, its extent, its
subresource counts and `mIsSubresourceContentInitializedAtIndex`, indexed here by mip level and
array layer. -/
structure TextureBase where
  format : Format
  width : UInt32
  height : UInt32
  mipLevelCount : UInt32
  arrayLayerCount : UInt32
  sampleCount : UInt32
  isSubresourceContentInitializedAtIndex : Nat → Nat → Bool

namespace TextureBase

variable (texture : TextureBase) (range : SubresourceRange)

/-- Modelled from the spec: `IsSubresourceContentInitialized` holds when every subresource of
the range is marked. -/
def isSubresourceContentInitialized : Bool :=
  range.levels.all fun level => range.layers.all fun layer =>
    texture.isSubresourceContentInitializedAtIndex level layer

/-- Modelled from the spec: `SetIsSubresourceContentInitialized` sets the flag of every
subresource of the range. -/
def setIsSubresourceContentInitialized (isInitialized : Bool) : TextureBase :=
  { texture with
    isSubresourceContentInitializedAtIndex := fun level layer =>
      if range.Contains level layer then isInitialized
      else texture.isSubresourceContentInitializedAtIndex level layer }

/-- Modelled from the spec: `GetMipLevelPhysicalSize` of an uncompressed texture, the only kind
whose levels the OpenGL clear visits. Each level halves the extent, down to 1. -/
def getMipLevelPhysicalSize (level : Nat) : Nat × Nat :=
  (max (texture.width.toNat >>> level) 1, max (texture.height.toNat >>> level) 1)

variable {texture range}

@[simp] theorem isSubresourceContentInitialized_iff :
    texture.isSubresourceContentInitialized range = true ↔
      ∀ level layer, range.Contains level layer →
        texture.isSubresourceContentInitializedAtIndex level layer = true := by
  simp only [isSubresourceContentInitialized, List.all_eq_true, SubresourceRange.Contains, and_imp]
  exact ⟨fun marked level layer level_mem layer_mem => marked level level_mem layer layer_mem,
    fun marked level level_mem layer layer_mem => marked level layer level_mem layer_mem⟩

@[simp] theorem setIsSubresourceContentInitialized_isSubresourceContentInitializedAtIndex
    {isInitialized : Bool} {level layer : Nat} :
    (texture.setIsSubresourceContentInitialized range
        isInitialized).isSubresourceContentInitializedAtIndex level layer =
      if range.Contains level layer then isInitialized
      else texture.isSubresourceContentInitializedAtIndex level layer := rfl

theorem getMipLevelPhysicalSize_fst_le (wide : 0 < texture.width.toNat) (level : Nat) :
    (texture.getMipLevelPhysicalSize level).1 ≤ texture.width.toNat :=
  max_le (by rw [Nat.shiftRight_eq_div_pow]; exact Nat.div_le_self _ _) wide

theorem getMipLevelPhysicalSize_snd_le (tall : 0 < texture.height.toNat) (level : Nat) :
    (texture.getMipLevelPhysicalSize level).2 ≤ texture.height.toNat :=
  max_le (by rw [Nat.shiftRight_eq_div_pow]; exact Nat.div_le_self _ _) tall

/-- Marking a range that is already marked changes nothing. -/
theorem setIsSubresourceContentInitialized_of_initialized
    (initialized : texture.isSubresourceContentInitialized range = true) :
    texture.setIsSubresourceContentInitialized range true = texture := by
  rw [isSubresourceContentInitialized_iff] at initialized
  cases texture
  simp only [setIsSubresourceContentInitialized, mk.injEq, true_and]
  funext level layer
  split_ifs with contained
  · exact (initialized level layer contained).symm
  · rfl

end TextureBase

/-- The device state that lazy clearing reads and writes: the `LazyClearResourceOnFirstUse`
toggle, the lazy clear counter for testing, and the errors handed to `ConsumedError`. -/
structure Device where
  lazyClearResourceOnFirstUse : Bool
  lazyClearCountForTesting : Nat
  consumedErrors : List ErrorData

namespace Device

/-- `DeviceBase::ConsumedError`: the device takes the error of a failed result. -/
def consumedError (device : Device) : MaybeError → Device
  | .ok () => device
  | .error error => { device with consumedErrors := device.consumedErrors ++ [error] }

/-- `DeviceBase::IncrementLazyClearCountForTesting`. -/
def incrementLazyClearCountForTesting (device : Device) : Device :=
  { device with lazyClearCountForTesting := device.lazyClearCountForTesting + 1 }

@[simp] theorem consumedError_lazyClearResourceOnFirstUse (device : Device)
    (result : MaybeError) :
    (device.consumedError result).lazyClearResourceOnFirstUse =
      device.lazyClearResourceOnFirstUse := by
  cases result <;> rfl

end Device

end Dawn.Native

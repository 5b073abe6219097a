import Mathlib.Data.Fintype.Basic

/-!
# Pipeline layouts

A pipeline layout lists, for each of the `kMaxBindGroups` bind group slots, the bind group
layout it uses there. The bind group tracker reads two things from it: the mask of the slots
it uses, and the slots whose bindings survive a switch from another layout. A
`std::bitset<kMaxBindGroups>` is modelled as the finite set of its set bits.
-/

namespace Dawn.Native

/-- A bind group layout. Layouts are compared by identity, which `id` stands for. -/
structure BindGroupLayout where
  id : Nat
  deriving DecidableEq, Repr

/-- A pipeline layout object: its identity and the bind group layout of each slot it uses.
Two values are equal exactly when they are the same object. -/
structure PipelineLayout (kMaxBindGroups : Nat) where
  id : Nat
  bindGroupLayouts : Fin kMaxBindGroups → Option BindGroupLayout
  deriving DecidableEq

namespace PipelineLayout

variable {kMaxBindGroups : Nat} (layout other : PipelineLayout kMaxBindGroups)

/-- `PipelineLayoutBase::GetBindGroupLayoutsMask`: the slots the layout uses. -/
def getBindGroupLayoutsMask : Finset (Fin kMaxBindGroups) :=
  Finset.univ.filter fun i => (layout.bindGroupLayouts i).isSome

/-- Modelled from the spec: `InheritedGroupsMask(other)` sets bit `i` iff both layouts hold
the same bind group layout object at every slot `j ≤ i`, the longest common prefix. -/
def inheritedGroupsMask : Finset (Fin kMaxBindGroups) :=
  Finset.univ.filter fun i => ∀ j ≤ i, layout.bindGroupLayouts j = other.bindGroupLayouts j

variable {layout other} {i : Fin kMaxBindGroups}

@[simp] theorem mem_getBindGroupLayoutsMask :
    i ∈ layout.getBindGroupLayoutsMask ↔ (layout.bindGroupLayouts i).isSome := by
  simp [getBindGroupLayoutsMask]

@[simp] theorem mem_inheritedGroupsMask :
    i ∈ layout.inheritedGroupsMask other ↔
      ∀ j ≤ i, layout.bindGroupLayouts j = other.bindGroupLayouts j := by
  simp [inheritedGroupsMask]

/-- A slot that the new layout uses and inherits was used by the old layout as well. -/
theorem mem_getBindGroupLayoutsMask_of_inherited (inherited : i ∈ layout.inheritedGroupsMask other)
    (used : i ∈ layout.getBindGroupLayoutsMask) : i ∈ other.getBindGroupLayoutsMask := by
  rw [mem_inheritedGroupsMask] at inherited
  rw [mem_getBindGroupLayoutsMask] at used ⊢
  rwa [← inherited i (Nat.le_refl _)]

end PipelineLayout

end Dawn.Native

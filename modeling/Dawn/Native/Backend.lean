import Dawn.Native.BindGroupTracker

/-!
# Backends driven by the tracker

A backend's apply step at a draw or dispatch binds, for every slot of
`mDirtyBindGroupsObjectChangedOrIsDynamic`, the stored group with its stored dynamic offsets
under the current pipeline layout, then calls `DidApply`. The native API keeps what is bound at
each slot; when a draw moves to another layout, a binding stays valid only where the backend
inherits bind groups and the two layouts share the prefix up to that slot. The naive backend,
which the tracker is meant to save work over, binds every used slot at every draw.

The backends' apply steps are not under src/; they are modelled from the spec.
-/

namespace Dawn.Native

/-- What the native API holds at one slot: a bind group and its dynamic offsets. -/
structure NativeBinding (BindGroup DynamicOffset : Type) where
  bindGroup : BindGroup
  dynamicOffsets : List DynamicOffset
  deriving DecidableEq

/-- The bindings of a native command list: the layout of its last draw, and at each slot the
binding that is still valid there (`none` when there is none). -/
structure NativeBindings (kMaxBindGroups : Nat) (BindGroup DynamicOffset : Type) where
  layout : Option (PipelineLayout kMaxBindGroups)
  slots : Fin kMaxBindGroups → Option (NativeBinding BindGroup DynamicOffset)

namespace NativeBindings

variable {kMaxBindGroups : Nat} {BindGroup DynamicOffset : Type}

def empty : NativeBindings kMaxBindGroups BindGroup DynamicOffset := ⟨none, fun _ => none⟩

/-- Whether the binding of `slot` stays valid when a draw moves from `previous` to `layout`. -/
def keepsBinding (c : Bool) (previous : Option (PipelineLayout kMaxBindGroups))
    (layout : PipelineLayout kMaxBindGroups) (slot : Fin kMaxBindGroups) : Bool :=
  decide (previous = some layout) || BindGroupTrackerBase.inheritsBindGroup c previous layout slot

/-- A draw under `layout`: the bindings that do not stay valid are lost. -/
def switchLayout (c : Bool) (native : NativeBindings kMaxBindGroups BindGroup DynamicOffset)
    (layout : PipelineLayout kMaxBindGroups) :
    NativeBindings kMaxBindGroups BindGroup DynamicOffset where
  layout := some layout
  slots i := if keepsBinding c native.layout layout i then native.slots i else none

/-- Bind `binding i` at every slot `i` of `slots`. -/
def bindSlots (native : NativeBindings kMaxBindGroups BindGroup DynamicOffset)
    (slots : Finset (Fin kMaxBindGroups))
    (binding : Fin kMaxBindGroups → Option (NativeBinding BindGroup DynamicOffset)) :
    NativeBindings kMaxBindGroups BindGroup DynamicOffset :=
  { native with slots := fun i => if i ∈ slots then binding i else native.slots i }

@[simp] theorem switchLayout_layout (c : Bool)
    (native : NativeBindings kMaxBindGroups BindGroup DynamicOffset)
    (layout : PipelineLayout kMaxBindGroups) :
    (native.switchLayout c layout).layout = some layout := rfl

@[simp] theorem bindSlots_layout (native : NativeBindings kMaxBindGroups BindGroup DynamicOffset)
    (slots : Finset (Fin kMaxBindGroups))
    (binding : Fin kMaxBindGroups → Option (NativeBinding BindGroup DynamicOffset)) :
    (native.bindSlots slots binding).layout = native.layout := rfl

@[simp] theorem switchLayout_slots (c : Bool)
    (native : NativeBindings kMaxBindGroups BindGroup DynamicOffset)
    (layout : PipelineLayout kMaxBindGroups) (i : Fin kMaxBindGroups) :
    (native.switchLayout c layout).slots i =
      if keepsBinding c native.layout layout i then native.slots i else none := rfl

@[simp] theorem bindSlots_slots (native : NativeBindings kMaxBindGroups BindGroup DynamicOffset)
    (slots : Finset (Fin kMaxBindGroups))
    (binding : Fin kMaxBindGroups → Option (NativeBinding BindGroup DynamicOffset))
    (i : Fin kMaxBindGroups) :
    (native.bindSlots slots binding).slots i = if i ∈ slots then binding i else native.slots i := rfl

end NativeBindings

namespace BindGroupTrackerBase

variable {kMaxBindGroups : Nat} {BindGroup DynamicOffset : Type}

/-- What the tracker asks a backend to bind at `slot`: the stored group with its stored
offsets. -/
def binding (s : BindGroupTrackerBase kMaxBindGroups BindGroup DynamicOffset)
    (slot : Fin kMaxBindGroups) : Option (NativeBinding BindGroup DynamicOffset) :=
  (s.bindGroups slot).map fun bindGroup => ⟨bindGroup, s.dynamicOffsets slot⟩

@[simp] theorem didApply_binding (s : BindGroupTrackerBase kMaxBindGroups BindGroup DynamicOffset) :
    s.didApply.binding = s.binding := rfl

@[simp] theorem onSetPipeline_binding (s : BindGroupTrackerBase kMaxBindGroups BindGroup DynamicOffset)
    (c : Bool) (layout : PipelineLayout kMaxBindGroups) :
    (s.onSetPipeline c layout).binding = s.binding := by
  funext slot
  simp [binding]

theorem onSetBindGroup_binding [DecidableEq BindGroup] [DynamicOffsetType DynamicOffset]
    (s : BindGroupTrackerBase kMaxBindGroups BindGroup DynamicOffset) (index slot : Fin kMaxBindGroups)
    (bindGroup : BindGroup) (dynamicOffsets : List UInt64) :
    (s.onSetBindGroup index bindGroup dynamicOffsets).binding slot =
      if slot = index then some ⟨bindGroup, setDynamicOffsets dynamicOffsets⟩
      else s.binding slot := by
  by_cases same : slot = index
  · subst same; simp [binding]
  · simp [binding, same]

/-- Modelled from the spec: a backend's apply step at a draw or dispatch. Under the current
layout it binds every slot of `mDirtyBindGroupsObjectChangedOrIsDynamic`, then calls
`DidApply`. A draw with no pipeline never reaches a backend (the frontend rejects it); here it
binds nothing. -/
def apply (c : Bool) (s : BindGroupTrackerBase kMaxBindGroups BindGroup DynamicOffset)
    (native : NativeBindings kMaxBindGroups BindGroup DynamicOffset) :
    NativeBindings kMaxBindGroups BindGroup DynamicOffset :=
  match s.pipelineLayout with
  | none => native
  | some layout =>
    (native.switchLayout c layout).bindSlots s.dirtyBindGroupsObjectChangedOrIsDynamic s.binding

/-- Modelled from the spec: the naive backend, which binds every slot the current layout uses
at every draw. -/
def applyAll (c : Bool) (s : BindGroupTrackerBase kMaxBindGroups BindGroup DynamicOffset)
    (native : NativeBindings kMaxBindGroups BindGroup DynamicOffset) :
    NativeBindings kMaxBindGroups BindGroup DynamicOffset :=
  match s.pipelineLayout with
  | none => native
  | some layout => (native.switchLayout c layout).bindSlots layout.getBindGroupLayoutsMask s.binding

variable {c : Bool} {s : BindGroupTrackerBase kMaxBindGroups BindGroup DynamicOffset}
  {layout : PipelineLayout kMaxBindGroups}

theorem apply_of_pipelineLayout (current : s.pipelineLayout = some layout)
    (native : NativeBindings kMaxBindGroups BindGroup DynamicOffset) :
    s.apply c native =
      (native.switchLayout c layout).bindSlots s.dirtyBindGroupsObjectChangedOrIsDynamic
        s.binding := by
  simp [apply, current]

theorem applyAll_of_pipelineLayout (current : s.pipelineLayout = some layout)
    (native : NativeBindings kMaxBindGroups BindGroup DynamicOffset) :
    s.applyAll c native =
      (native.switchLayout c layout).bindSlots layout.getBindGroupLayoutsMask s.binding := by
  simp [applyAll, current]

end BindGroupTrackerBase

/-- A command encoder replayed on two backends at once: the tracker and the native bindings it
drives, and the bindings of the naive backend for the same commands. -/
structure Encoder (kMaxBindGroups : Nat) (BindGroup DynamicOffset : Type) where
  tracker : BindGroupTrackerBase kMaxBindGroups BindGroup DynamicOffset
  native : NativeBindings kMaxBindGroups BindGroup DynamicOffset
  naive : NativeBindings kMaxBindGroups BindGroup DynamicOffset

namespace Encoder

variable {kMaxBindGroups : Nat} {BindGroup DynamicOffset : Type}
  [DecidableEq BindGroup] [DynamicOffsetType DynamicOffset]

def initial : Encoder kMaxBindGroups BindGroup DynamicOffset :=
  ⟨.initial, .empty, .empty⟩

/-- One command; `didApply` stands for a draw or dispatch, where both backends apply. -/
def step (c : Bool) (e : Encoder kMaxBindGroups BindGroup DynamicOffset) :
    TrackerCall kMaxBindGroups BindGroup → Encoder kMaxBindGroups BindGroup DynamicOffset
  | .setBindGroup index bindGroup dynamicOffsets =>
    { e with tracker := e.tracker.onSetBindGroup index bindGroup dynamicOffsets }
  | .setPipeline layout => { e with tracker := e.tracker.onSetPipeline c layout }
  | .didApply =>
    { tracker := e.tracker.didApply
      native := e.tracker.apply c e.native
      naive := e.tracker.applyAll c e.naive }

def run (c : Bool) (e : Encoder kMaxBindGroups BindGroup DynamicOffset)
    (calls : List (TrackerCall kMaxBindGroups BindGroup)) :
    Encoder kMaxBindGroups BindGroup DynamicOffset :=
  calls.foldl (step c) e

@[simp] theorem run_nil (c : Bool) (e : Encoder kMaxBindGroups BindGroup DynamicOffset) :
    e.run c [] = e := rfl

@[simp] theorem run_cons (c : Bool) (e : Encoder kMaxBindGroups BindGroup DynamicOffset)
    (call : TrackerCall kMaxBindGroups BindGroup) (calls : List (TrackerCall kMaxBindGroups BindGroup)) :
    e.run c (call :: calls) = (e.step c call).run c calls := rfl

theorem run_append (c : Bool) (e : Encoder kMaxBindGroups BindGroup DynamicOffset)
    (calls more : List (TrackerCall kMaxBindGroups BindGroup)) :
    e.run c (calls ++ more) = (e.run c calls).run c more :=
  List.foldl_append ..

end Encoder

end Dawn.Native

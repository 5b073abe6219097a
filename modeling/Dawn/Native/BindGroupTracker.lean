import Dawn.Native.PipelineLayout

/-!
# The bind group tracker

`BindGroupTrackerBase` of `dawn_native/BindGroupTracker.h`: the bind groups set on a command
encoder, and the slots a backend has to bind again before the next draw or dispatch. Of the
template parameters, `BindGroup` and `DynamicOffset` are type parameters here, and
`CanInheritBindGroups` is an argument of `onSetPipeline`, the one member that reads it.
-/

namespace Dawn.Native

/-- The two `SetDynamicOffsets` overloads, chosen by the tracker's offset type: Vulkan keeps
32-bit offsets, the other backends 64-bit ones. -/
class DynamicOffsetType (DynamicOffset : Type) where
  ofUInt64 : UInt64 → DynamicOffset

/-- The 32-bit copy truncates; its `ASSERT` asks the offset to fit. -/
instance : DynamicOffsetType UInt32 := ⟨UInt64.toUInt32⟩

instance : DynamicOffsetType UInt64 := ⟨id⟩

/-- The members of `BindGroupTrackerBase`. `dynamicOffsets i` holds the offsets copied by the
last `OnSetBindGroup` at slot `i`: the array entries past `mDynamicOffsetCounts[i]`, which no
backend reads, are left out. -/
structure BindGroupTrackerBase (kMaxBindGroups : Nat) (BindGroup DynamicOffset : Type) where
  dirtyBindGroups : Finset (Fin kMaxBindGroups)
  dirtyBindGroupsObjectChangedOrIsDynamic : Finset (Fin kMaxBindGroups)
  bindGroupLayoutsMask : Finset (Fin kMaxBindGroups)
  bindGroups : Fin kMaxBindGroups → Option BindGroup
  dynamicOffsetCounts : Fin kMaxBindGroups → Nat
  dynamicOffsets : Fin kMaxBindGroups → List DynamicOffset
  pipelineLayout : Option (PipelineLayout kMaxBindGroups)
  lastAppliedPipelineLayout : Option (PipelineLayout kMaxBindGroups)

namespace BindGroupTrackerBase

variable {kMaxBindGroups : Nat} {BindGroup DynamicOffset : Type}

/-- The default member initializers. -/
def initial : BindGroupTrackerBase kMaxBindGroups BindGroup DynamicOffset where
  dirtyBindGroups := ∅
  dirtyBindGroupsObjectChangedOrIsDynamic := ∅
  bindGroupLayoutsMask := ∅
  bindGroups := fun _ => none
  dynamicOffsetCounts := fun _ => 0
  dynamicOffsets := fun _ => []
  pipelineLayout := none
  lastAppliedPipelineLayout := none

/-- `SetDynamicOffsets`: copy the API's 64-bit offsets into the tracker's offset type. -/
def setDynamicOffsets [DynamicOffsetType DynamicOffset] (dynamicOffsets : List UInt64) :
    List DynamicOffset :=
  dynamicOffsets.map DynamicOffsetType.ofUInt64

/-- Whether a backend keeps the binding of `slot` when the layout moves from `lastApplied` to
`layout`: only a backend that inherits bind groups does, and only within the common prefix. -/
def inheritsBindGroup : Bool → Option (PipelineLayout kMaxBindGroups) →
    PipelineLayout kMaxBindGroups → Fin kMaxBindGroups → Bool
  | true, some lastApplied, layout, slot => decide (slot ∈ layout.inheritedGroupsMask lastApplied)
  | _, _, _, _ => false

/-- A dirty set after `OnSetPipeline` moved to a new layout: the used slots that were dirty or
whose binding does not survive the move. -/
def dirtyAfterLayoutChange (canInheritBindGroups : Bool)
    (lastApplied : Option (PipelineLayout kMaxBindGroups)) (layout : PipelineLayout kMaxBindGroups)
    (dirty : Finset (Fin kMaxBindGroups)) : Finset (Fin kMaxBindGroups) :=
  layout.getBindGroupLayoutsMask.filter fun i =>
    i ∈ dirty ∨ inheritsBindGroup canInheritBindGroups lastApplied layout i = false

@[simp] theorem mem_dirtyAfterLayoutChange {c : Bool}
    {lastApplied : Option (PipelineLayout kMaxBindGroups)} {layout : PipelineLayout kMaxBindGroups}
    {dirty : Finset (Fin kMaxBindGroups)} {i : Fin kMaxBindGroups} :
    i ∈ dirtyAfterLayoutChange c lastApplied layout dirty ↔
      i ∈ layout.getBindGroupLayoutsMask ∧
        (i ∈ dirty ∨ inheritsBindGroup c lastApplied layout i = false) := by
  simp [dirtyAfterLayoutChange]

theorem dirtyAfterLayoutChange_subset_mask (c : Bool)
    (lastApplied : Option (PipelineLayout kMaxBindGroups)) (layout : PipelineLayout kMaxBindGroups)
    (dirty : Finset (Fin kMaxBindGroups)) :
    dirtyAfterLayoutChange c lastApplied layout dirty ⊆ layout.getBindGroupLayoutsMask :=
  Finset.filter_subset _ _

theorem dirtyAfterLayoutChange_mono (c : Bool)
    (lastApplied : Option (PipelineLayout kMaxBindGroups)) (layout : PipelineLayout kMaxBindGroups)
    {dirty dirty' : Finset (Fin kMaxBindGroups)} (le : dirty ⊆ dirty') :
    dirtyAfterLayoutChange c lastApplied layout dirty ⊆
      dirtyAfterLayoutChange c lastApplied layout dirty' :=
  Finset.monotone_filter_right _ fun _ => Or.imp_left (@le _)

/-- `OnSetPipeline(pipeline)`, given the pipeline's layout, the only part of it that is read. -/
def onSetPipeline (canInheritBindGroups : Bool)
    (s : BindGroupTrackerBase kMaxBindGroups BindGroup DynamicOffset)
    (layout : PipelineLayout kMaxBindGroups) :
    BindGroupTrackerBase kMaxBindGroups BindGroup DynamicOffset :=
  let s := { s with pipelineLayout := some layout }
  if s.lastAppliedPipelineLayout = some layout then s
  else
    let s := { s with bindGroupLayoutsMask := layout.getBindGroupLayoutsMask }
    match canInheritBindGroups, s.lastAppliedPipelineLayout with
    | true, some lastApplied =>
      let dirtiedGroups := (layout.inheritedGroupsMask lastApplied)ᶜ
      { s with
        dirtyBindGroups := (s.dirtyBindGroups ∪ dirtiedGroups) ∩ s.bindGroupLayoutsMask
        dirtyBindGroupsObjectChangedOrIsDynamic :=
          (s.dirtyBindGroupsObjectChangedOrIsDynamic ∪ dirtiedGroups) ∩ s.bindGroupLayoutsMask }
    | _, _ =>
      { s with
        dirtyBindGroups := s.bindGroupLayoutsMask
        dirtyBindGroupsObjectChangedOrIsDynamic := s.bindGroupLayoutsMask }

/-- `DidApply()`, called by a backend once it has bound the dirty groups. -/
def didApply (s : BindGroupTrackerBase kMaxBindGroups BindGroup DynamicOffset) :
    BindGroupTrackerBase kMaxBindGroups BindGroup DynamicOffset :=
  { s with
    dirtyBindGroups := ∅
    dirtyBindGroupsObjectChangedOrIsDynamic := ∅
    lastAppliedPipelineLayout := s.pipelineLayout }

@[simp] theorem didApply_dirtyBindGroups
    (s : BindGroupTrackerBase kMaxBindGroups BindGroup DynamicOffset) :
    s.didApply.dirtyBindGroups = ∅ := rfl

@[simp] theorem didApply_dirtyBindGroupsObjectChangedOrIsDynamic
    (s : BindGroupTrackerBase kMaxBindGroups BindGroup DynamicOffset) :
    s.didApply.dirtyBindGroupsObjectChangedOrIsDynamic = ∅ := rfl

@[simp] theorem didApply_lastAppliedPipelineLayout
    (s : BindGroupTrackerBase kMaxBindGroups BindGroup DynamicOffset) :
    s.didApply.lastAppliedPipelineLayout = s.pipelineLayout := rfl

/-- `OnSetPipeline` with the last applied layout only records the layout. -/
theorem onSetPipeline_of_eq (s : BindGroupTrackerBase kMaxBindGroups BindGroup DynamicOffset)
    (c : Bool) {layout : PipelineLayout kMaxBindGroups}
    (same : s.lastAppliedPipelineLayout = some layout) :
    s.onSetPipeline c layout = { s with pipelineLayout := some layout } := by
  simp [onSetPipeline, same]

/-- `OnSetPipeline` with another layout takes its mask and dirties what does not survive. -/
theorem onSetPipeline_of_ne (s : BindGroupTrackerBase kMaxBindGroups BindGroup DynamicOffset)
    (c : Bool) {layout : PipelineLayout kMaxBindGroups}
    (changed : s.lastAppliedPipelineLayout ≠ some layout) :
    s.onSetPipeline c layout =
      { s with
        pipelineLayout := some layout
        bindGroupLayoutsMask := layout.getBindGroupLayoutsMask
        dirtyBindGroups :=
          dirtyAfterLayoutChange c s.lastAppliedPipelineLayout layout s.dirtyBindGroups
        dirtyBindGroupsObjectChangedOrIsDynamic :=
          dirtyAfterLayoutChange c s.lastAppliedPipelineLayout layout
            s.dirtyBindGroupsObjectChangedOrIsDynamic } := by
  simp only [onSetPipeline, changed, if_false]
  cases c <;> cases h : s.lastAppliedPipelineLayout <;>
    simp [h, inheritsBindGroup, Finset.ext_iff, and_comm, or_comm]

variable (s : BindGroupTrackerBase kMaxBindGroups BindGroup DynamicOffset) (c : Bool)
  (layout : PipelineLayout kMaxBindGroups)

/-- `OnSetPipeline` changes the current layout, the mask and the dirty sets, and nothing else. -/
theorem onSetPipeline_frame : ∃ mask dirty dirtyObjectChangedOrIsDynamic,
    s.onSetPipeline c layout =
      { s with
        pipelineLayout := some layout
        bindGroupLayoutsMask := mask
        dirtyBindGroups := dirty
        dirtyBindGroupsObjectChangedOrIsDynamic := dirtyObjectChangedOrIsDynamic } := by
  by_cases same : s.lastAppliedPipelineLayout = some layout
  · exact ⟨_, _, _, onSetPipeline_of_eq s c same⟩
  · exact ⟨_, _, _, onSetPipeline_of_ne s c same⟩

@[simp] theorem onSetPipeline_pipelineLayout :
    (s.onSetPipeline c layout).pipelineLayout = some layout := by
  obtain ⟨_, _, _, frame⟩ := onSetPipeline_frame s c layout
  rw [frame]

@[simp] theorem onSetPipeline_lastAppliedPipelineLayout :
    (s.onSetPipeline c layout).lastAppliedPipelineLayout = s.lastAppliedPipelineLayout := by
  obtain ⟨_, _, _, frame⟩ := onSetPipeline_frame s c layout
  rw [frame]

@[simp] theorem onSetPipeline_bindGroups :
    (s.onSetPipeline c layout).bindGroups = s.bindGroups := by
  obtain ⟨_, _, _, frame⟩ := onSetPipeline_frame s c layout
  rw [frame]

@[simp] theorem onSetPipeline_dynamicOffsets :
    (s.onSetPipeline c layout).dynamicOffsets = s.dynamicOffsets := by
  obtain ⟨_, _, _, frame⟩ := onSetPipeline_frame s c layout
  rw [frame]

variable [DecidableEq BindGroup] [DynamicOffsetType DynamicOffset]

/-- `OnSetBindGroup(index, bindGroup, dynamicOffsetCount, dynamicOffsets)`. The offsets are one
list, whose length is `dynamicOffsetCount`; `index < kMaxBindGroups` is in the type. -/
def onSetBindGroup (s : BindGroupTrackerBase kMaxBindGroups BindGroup DynamicOffset)
    (index : Fin kMaxBindGroups) (bindGroup : BindGroup) (dynamicOffsets : List UInt64) :
    BindGroupTrackerBase kMaxBindGroups BindGroup DynamicOffset :=
  let s :=
    if index ∈ s.bindGroupLayoutsMask then
      let s :=
        if s.bindGroups index ≠ some bindGroup then
          { s with
            dirtyBindGroups := insert index s.dirtyBindGroups
            dirtyBindGroupsObjectChangedOrIsDynamic :=
              insert index s.dirtyBindGroupsObjectChangedOrIsDynamic }
        else s
      if dynamicOffsets.length > 0 then
        { s with
          dirtyBindGroupsObjectChangedOrIsDynamic :=
            insert index s.dirtyBindGroupsObjectChangedOrIsDynamic }
      else s
    else s
  { s with
    bindGroups := Function.update s.bindGroups index (some bindGroup)
    dynamicOffsetCounts := Function.update s.dynamicOffsetCounts index dynamicOffsets.length
    dynamicOffsets := Function.update s.dynamicOffsets index (setDynamicOffsets dynamicOffsets) }

variable (s : BindGroupTrackerBase kMaxBindGroups BindGroup DynamicOffset)
  (index : Fin kMaxBindGroups) (bindGroup : BindGroup) (dynamicOffsets : List UInt64)

@[simp] theorem onSetBindGroup_bindGroupLayoutsMask :
    (s.onSetBindGroup index bindGroup dynamicOffsets).bindGroupLayoutsMask =
      s.bindGroupLayoutsMask := by
  unfold onSetBindGroup; split_ifs <;> rfl

@[simp] theorem onSetBindGroup_bindGroups :
    (s.onSetBindGroup index bindGroup dynamicOffsets).bindGroups =
      Function.update s.bindGroups index (some bindGroup) := by
  unfold onSetBindGroup; split_ifs <;> rfl

@[simp] theorem onSetBindGroup_dynamicOffsets :
    (s.onSetBindGroup index bindGroup dynamicOffsets).dynamicOffsets =
      Function.update s.dynamicOffsets index (setDynamicOffsets dynamicOffsets) := by
  unfold onSetBindGroup; split_ifs <;> rfl

@[simp] theorem onSetBindGroup_pipelineLayout :
    (s.onSetBindGroup index bindGroup dynamicOffsets).pipelineLayout = s.pipelineLayout := by
  unfold onSetBindGroup; split_ifs <;> rfl

@[simp] theorem onSetBindGroup_lastAppliedPipelineLayout :
    (s.onSetBindGroup index bindGroup dynamicOffsets).lastAppliedPipelineLayout =
      s.lastAppliedPipelineLayout := by
  unfold onSetBindGroup; split_ifs <;> rfl

theorem onSetBindGroup_dirtyBindGroups :
    (s.onSetBindGroup index bindGroup dynamicOffsets).dirtyBindGroups =
      if index ∈ s.bindGroupLayoutsMask ∧ s.bindGroups index ≠ some bindGroup then
        insert index s.dirtyBindGroups
      else s.dirtyBindGroups := by
  unfold onSetBindGroup; split_ifs <;> simp_all

theorem onSetBindGroup_dirtyBindGroupsObjectChangedOrIsDynamic :
    (s.onSetBindGroup index bindGroup dynamicOffsets).dirtyBindGroupsObjectChangedOrIsDynamic =
      if index ∈ s.bindGroupLayoutsMask ∧
          (s.bindGroups index ≠ some bindGroup ∨ 0 < dynamicOffsets.length) then
        insert index s.dirtyBindGroupsObjectChangedOrIsDynamic
      else s.dirtyBindGroupsObjectChangedOrIsDynamic := by
  unfold onSetBindGroup; split_ifs <;> simp_all

end BindGroupTrackerBase

/-- The calls a tracker receives: the encoder's `SetBindGroup` and `SetPipeline` commands, and
the `DidApply` of a backend's apply step at a draw or dispatch. -/
inductive TrackerCall (kMaxBindGroups : Nat) (BindGroup : Type)
  | setBindGroup (index : Fin kMaxBindGroups) (bindGroup : BindGroup) (dynamicOffsets : List UInt64)
  | setPipeline (layout : PipelineLayout kMaxBindGroups)
  | didApply

namespace BindGroupTrackerBase

variable {kMaxBindGroups : Nat} {BindGroup DynamicOffset : Type}
  [DecidableEq BindGroup] [DynamicOffsetType DynamicOffset]

/-- One call on the tracker. -/
def step (canInheritBindGroups : Bool)
    (s : BindGroupTrackerBase kMaxBindGroups BindGroup DynamicOffset) :
    TrackerCall kMaxBindGroups BindGroup → BindGroupTrackerBase kMaxBindGroups BindGroup DynamicOffset
  | .setBindGroup index bindGroup dynamicOffsets => s.onSetBindGroup index bindGroup dynamicOffsets
  | .setPipeline layout => s.onSetPipeline canInheritBindGroups layout
  | .didApply => s.didApply

/-- A sequence of calls, in order. -/
def run (canInheritBindGroups : Bool)
    (s : BindGroupTrackerBase kMaxBindGroups BindGroup DynamicOffset)
    (calls : List (TrackerCall kMaxBindGroups BindGroup)) :
    BindGroupTrackerBase kMaxBindGroups BindGroup DynamicOffset :=
  calls.foldl (step canInheritBindGroups) s

variable {c : Bool} {s : BindGroupTrackerBase kMaxBindGroups BindGroup DynamicOffset}

@[simp] theorem run_nil : run c s [] = s := rfl

@[simp] theorem run_cons (call : TrackerCall kMaxBindGroups BindGroup) (calls) :
    run c s (call :: calls) = run c (step c s call) calls := rfl

theorem run_append (calls more : List (TrackerCall kMaxBindGroups BindGroup)) :
    run c s (calls ++ more) = run c (run c s calls) more :=
  List.foldl_append ..

/-- A property that every call of a run preserves holds after the run. -/
theorem run_induction (P : BindGroupTrackerBase kMaxBindGroups BindGroup DynamicOffset → Prop)
    (calls : List (TrackerCall kMaxBindGroups BindGroup))
    (preserved : ∀ s, ∀ call ∈ calls, P s → P (step c s call)) (start : P s) :
    P (run c s calls) := by
  induction calls generalizing s with
  | nil => exact start
  | cons call calls ih =>
    exact ih (fun t call' mem => preserved t call' (List.mem_cons_of_mem _ mem))
      (preserved s call (List.mem_cons_self _ _) start)

end BindGroupTrackerBase

end Dawn.Native

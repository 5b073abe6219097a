import Dawn.Native.BindGroupTracker
import Mathlib.Data.Fin.VecNotation

/-!
# Invariants of the bind group tracker

Over every run of `OnSetBindGroup`, `OnSetPipeline` and `DidApply`, with either value of
`CanInheritBindGroups`, the dirty sets stay nested inside the layout mask
(`run_dirty_subset_mask`), and a draw that repeats the last one issues no bind
(`run_redundant_dirty_empty`). The mask itself does not always mirror the current layout:
`OnSetPipeline` returns early when it gets the last applied layout back, and keeps the mask
and the dirty slots of the layout set in between (`stale_mask_after_layout_round_trip`). On runs
with an apply between any two `SetPipeline` calls it does mirror it (`MaskCurrent`, with the
refinement of the backends).
-/

namespace Dawn.Native.BindGroupTrackerBase

variable {kMaxBindGroups : Nat} {BindGroup DynamicOffset : Type}
  {s : BindGroupTrackerBase kMaxBindGroups BindGroup DynamicOffset}

/-! ### Nesting of the dirty sets -/

/-- Every slot to prepare is a slot to bind, and every slot to bind is used by the layout. -/
def DirtyNested (s : BindGroupTrackerBase kMaxBindGroups BindGroup DynamicOffset) : Prop :=
  s.dirtyBindGroups ⊆ s.dirtyBindGroupsObjectChangedOrIsDynamic ∧
    s.dirtyBindGroupsObjectChangedOrIsDynamic ⊆ s.bindGroupLayoutsMask

theorem dirtyNested_initial :
    DirtyNested (initial : BindGroupTrackerBase kMaxBindGroups BindGroup DynamicOffset) :=
  ⟨subset_rfl, subset_rfl⟩

theorem dirtyNested_onSetPipeline (nested : DirtyNested s) (c : Bool)
    (layout : PipelineLayout kMaxBindGroups) : DirtyNested (s.onSetPipeline c layout) := by
  by_cases same : s.lastAppliedPipelineLayout = some layout
  · rw [onSetPipeline_of_eq s c same]
    exact nested
  · rw [onSetPipeline_of_ne s c same]
    exact ⟨dirtyAfterLayoutChange_mono _ _ _ nested.1, dirtyAfterLayoutChange_subset_mask ..⟩

variable [DecidableEq BindGroup] [DynamicOffsetType DynamicOffset]

theorem dirtyNested_onSetBindGroup (nested : DirtyNested s) (index : Fin kMaxBindGroups)
    (bindGroup : BindGroup) (dynamicOffsets : List UInt64) :
    DirtyNested (s.onSetBindGroup index bindGroup dynamicOffsets) := by
  obtain ⟨inner, outer⟩ := nested
  rw [DirtyNested, onSetBindGroup_dirtyBindGroups,
    onSetBindGroup_dirtyBindGroupsObjectChangedOrIsDynamic, onSetBindGroup_bindGroupLayoutsMask]
  split_ifs with changed marked marked
  · exact ⟨Finset.insert_subset_insert _ inner, Finset.insert_subset marked.1 outer⟩
  · exact absurd ⟨changed.1, .inl changed.2⟩ marked
  · exact ⟨inner.trans (Finset.subset_insert _ _), Finset.insert_subset marked.1 outer⟩
  · exact ⟨inner, outer⟩

theorem dirtyNested_step (c : Bool) (call : TrackerCall kMaxBindGroups BindGroup)
    (nested : DirtyNested s) : DirtyNested (step c s call) := by
  cases call with
  | setBindGroup index bindGroup dynamicOffsets =>
    exact dirtyNested_onSetBindGroup nested index bindGroup dynamicOffsets
  | setPipeline layout => exact dirtyNested_onSetPipeline nested c layout
  | didApply => exact ⟨subset_rfl, Finset.empty_subset _⟩

/-- In every reachable state, `mDirtyBindGroups ⊆ mDirtyBindGroupsObjectChangedOrIsDynamic ⊆
mBindGroupLayoutsMask`. -/
theorem run_dirty_subset_mask (c : Bool) (calls : List (TrackerCall kMaxBindGroups BindGroup)) :
    DirtyNested (run c (initial : BindGroupTrackerBase kMaxBindGroups BindGroup DynamicOffset)
      calls) :=
  run_induction DirtyNested calls (fun _ call _ => dirtyNested_step c call) dirtyNested_initial

/-! ### Redundant calls between two applies -/

/-- A call that sets again what the tracker held at its last apply: the last applied layout, or
the bind group already stored at a slot, with no dynamic offsets. -/
def Redundant (s : BindGroupTrackerBase kMaxBindGroups BindGroup DynamicOffset) :
    TrackerCall kMaxBindGroups BindGroup → Prop
  | .setBindGroup index bindGroup dynamicOffsets =>
    s.bindGroups index = some bindGroup ∧ dynamicOffsets = []
  | .setPipeline layout => s.lastAppliedPipelineLayout = some layout
  | .didApply => False

instance (s : BindGroupTrackerBase kMaxBindGroups BindGroup DynamicOffset) :
    DecidablePred (Redundant s)
  | .setBindGroup .. => inferInstanceAs (Decidable (_ ∧ _))
  | .setPipeline _ => inferInstanceAs (Decidable (_ = _))
  | .didApply => inferInstanceAs (Decidable False)

/-- `t` is as `s` was at its last apply: both dirty sets are empty, and it holds the bind groups
and the last applied layout of `s`. -/
def Quiet (s t : BindGroupTrackerBase kMaxBindGroups BindGroup DynamicOffset) : Prop :=
  (t.dirtyBindGroups = ∅ ∧ t.dirtyBindGroupsObjectChangedOrIsDynamic = ∅) ∧
    t.bindGroups = s.bindGroups ∧ t.lastAppliedPipelineLayout = s.lastAppliedPipelineLayout

private theorem quiet_step (c : Bool)
    {t : BindGroupTrackerBase kMaxBindGroups BindGroup DynamicOffset}
    {call : TrackerCall kMaxBindGroups BindGroup} (redundant : Redundant s call)
    (quiet : Quiet s t) : Quiet s (step c t call) := by
  obtain ⟨clean, groups, applied⟩ := quiet
  cases call with
  | setBindGroup index bindGroup dynamicOffsets =>
    obtain ⟨stored, rfl⟩ := redundant
    have unchanged : t.bindGroups index = some bindGroup := groups ▸ stored
    simp [Quiet, step, onSetBindGroup_dirtyBindGroups,
      onSetBindGroup_dirtyBindGroupsObjectChangedOrIsDynamic, unchanged, clean, groups, applied,
      stored]
  | setPipeline layout =>
    rw [step, onSetPipeline_of_eq t c (applied.trans redundant)]
    exact ⟨clean, groups, applied⟩
  | didApply => exact redundant.elim

/-- Between two applies, calls that only repeat the last applied layout and the stored groups
with no dynamic offsets leave both dirty sets empty, so the second apply binds nothing. -/
theorem run_redundant_dirty_empty (c : Bool)
    (s : BindGroupTrackerBase kMaxBindGroups BindGroup DynamicOffset)
    (calls : List (TrackerCall kMaxBindGroups BindGroup))
    (redundant : ∀ call ∈ calls, Redundant s.didApply call) :
    (run c s.didApply calls).dirtyBindGroups = ∅ ∧
      (run c s.didApply calls).dirtyBindGroupsObjectChangedOrIsDynamic = ∅ :=
  (run_induction (Quiet s.didApply) calls
    (fun _ call mem => quiet_step c (redundant call mem)) ⟨⟨rfl, rfl⟩, rfl, rfl⟩).1

/-- A layout that uses slot 0 only. -/
def layoutA : PipelineLayout 4 := ⟨0, ![some ⟨0⟩, none, none, none]⟩

/-- A layout with the same slot 0 as `layoutA` that also uses slot 1. -/
def layoutB : PipelineLayout 4 := ⟨1, ![some ⟨0⟩, some ⟨1⟩, none, none]⟩

/-- Set `layoutA` and a group at slot 0. -/
def drawA : List (TrackerCall 4 Nat) := [.setPipeline layoutA, .setBindGroup 0 7 []]

theorem run_redundant_dirty_empty_after_draw :
    (∀ call ∈ drawA, Redundant (run true (initial : BindGroupTrackerBase 4 Nat UInt64)
      drawA).didApply call) ∧
    (run true (run true (initial : BindGroupTrackerBase 4 Nat UInt64) drawA).didApply
      drawA).dirtyBindGroups = ∅ ∧
    (run true (run true (initial : BindGroupTrackerBase 4 Nat UInt64) drawA).didApply
      drawA).dirtyBindGroupsObjectChangedOrIsDynamic = ∅ :=
  have redundant : ∀ call ∈ drawA, Redundant (run true
      (initial : BindGroupTrackerBase 4 Nat UInt64) drawA).didApply call := by decide
  ⟨redundant, run_redundant_dirty_empty true _ drawA redundant⟩

/-! ### The early return of `OnSetPipeline` -/

/-- Apply `layoutA`, then set `layoutB` and `layoutA` again with no draw in between: the
tracker keeps `layoutB`'s mask and a dirty slot that `layoutA` does not use. -/
def layoutRoundTrip : List (TrackerCall 4 Nat) :=
  [.setPipeline layoutA, .didApply, .setPipeline layoutB, .setPipeline layoutA]

theorem stale_mask_after_layout_round_trip (c : Bool) :
    (run c (initial : BindGroupTrackerBase 4 Nat UInt64) layoutRoundTrip).pipelineLayout =
      some layoutA ∧
    (run c (initial : BindGroupTrackerBase 4 Nat UInt64) layoutRoundTrip).bindGroupLayoutsMask =
      layoutB.getBindGroupLayoutsMask ∧
    layoutB.getBindGroupLayoutsMask ≠ layoutA.getBindGroupLayoutsMask ∧
    1 ∈ (run c (initial : BindGroupTrackerBase 4 Nat UInt64)
      layoutRoundTrip).dirtyBindGroupsObjectChangedOrIsDynamic ∧
    1 ∉ layoutA.getBindGroupLayoutsMask := by
  cases c <;> decide

end Dawn.Native.BindGroupTrackerBase

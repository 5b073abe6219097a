import Dawn.Native.Backend
import Dawn.Properties.TrackerInvariants

/-!
# The tracker-driven backend against the naive backend

A backend that binds only the slots of `mDirtyBindGroupsObjectChangedOrIsDynamic` at each draw
should leave the native API in the state of the naive backend, which binds every used slot.

## Main results

`apply_binds_as_naive`: when no `SetPipeline` follows another before an apply, and every group
is set with as many offsets as its layout has dynamic bindings, then after each apply every slot
of the current layout holds, natively and validly, the tracker's group and offsets, as on the
naive backend.

`lost_update_after_unused_slot_set`: without the first condition this fails. Set a group at a
slot the current layout does not use; moving back to the last applied layout (any backend), or
to a layout that inherits the slot from it (a backend that inherits bind groups), does not dirty
the slot, and the next apply leaves the old group bound there.

`run_mask_eq_current_layout`: under the first condition alone the tracker always holds the
current layout's mask, and no dirty slot lies outside it.

## Proof strategy

Both invariants are indexed by whether a `SetPipeline` came since the last apply, and
`appliesBetweenPipelines_induction` carries any such invariant over a run. `MaskCurrent` says
that the tracker holds the current layout's mask, which `OnSetPipeline` keeps on its early return
only when no other `SetPipeline` came in between. `UpToDate` extends it: every used slot outside
the bind set holds the tracker's binding natively and keeps it through the next draw.
`SetBindGroup` keeps it because a slot whose group changes, or that gets offsets, is dirtied;
`SetPipeline` keeps it because a slot that is not dirtied is inherited, and an inherited used
slot was used by the last applied layout, whose mask the tracker still holds.
-/

namespace Dawn.Native.Encoder

open BindGroupTrackerBase NativeBindings

variable {kMaxBindGroups : Nat} {BindGroup DynamicOffset : Type}

/-- The mask of an optional layout: nothing before the first pipeline. -/
def layoutMask : Option (PipelineLayout kMaxBindGroups) → Finset (Fin kMaxBindGroups)
  | none => ∅
  | some layout => layout.getBindGroupLayoutsMask

/-- `OnSetBindGroup` receives as many offsets as the group's layout has dynamic bindings, which
frontend validation guarantees. -/
def OffsetCountMatches (dynamicOffsetCount : BindGroup → Nat) :
    TrackerCall kMaxBindGroups BindGroup → Prop
  | .setBindGroup _ bindGroup dynamicOffsets => dynamicOffsets.length = dynamicOffsetCount bindGroup
  | _ => True

instance (dynamicOffsetCount : BindGroup → Nat) :
    DecidablePred
      (OffsetCountMatches dynamicOffsetCount : TrackerCall kMaxBindGroups BindGroup → Prop)
  | .setBindGroup .. => inferInstanceAs (Decidable (_ = _))
  | .setPipeline _ => inferInstanceAs (Decidable True)
  | .didApply => inferInstanceAs (Decidable True)

/-- No `SetPipeline` comes after another one before an apply; `pending` says whether one came
since the last apply. -/
def appliesBetweenPipelines : Bool → List (TrackerCall kMaxBindGroups BindGroup) → Bool
  | _, [] => true
  | pending, .setPipeline _ :: calls => !pending && appliesBetweenPipelines true calls
  | _, .didApply :: calls => appliesBetweenPipelines false calls
  | pending, .setBindGroup .. :: calls => appliesBetweenPipelines pending calls

/-- A property indexed by whether a `SetPipeline` came since the last apply holds after a run in
which no `SetPipeline` follows another before an apply, when every call of the run keeps it. -/
theorem appliesBetweenPipelines_induction {σ : Type}
    {f : σ → TrackerCall kMaxBindGroups BindGroup → σ} (P : Bool → σ → Prop)
    {calls : List (TrackerCall kMaxBindGroups BindGroup)}
    (setBindGroup : ∀ index bindGroup dynamicOffsets,
      .setBindGroup index bindGroup dynamicOffsets ∈ calls →
        ∀ pending s, P pending s → P pending (f s (.setBindGroup index bindGroup dynamicOffsets)))
    (setPipeline : ∀ layout s, P false s → P true (f s (.setPipeline layout)))
    (didApply : ∀ pending s, P pending s → P false (f s .didApply))
    {pending : Bool} {s : σ} (start : P pending s)
    (alternate : appliesBetweenPipelines pending calls = true) :
    ∃ pending', P pending' (calls.foldl f s) := by
  induction calls generalizing pending s with
  | nil => exact ⟨pending, start⟩
  | cons call calls ih =>
    have rest := @ih fun index bindGroup dynamicOffsets mem =>
      setBindGroup index bindGroup dynamicOffsets (List.mem_cons_of_mem _ mem)
    cases call with
    | setBindGroup index bindGroup dynamicOffsets =>
      exact rest (setBindGroup index bindGroup dynamicOffsets (List.mem_cons_self _ _) _ _ start)
        alternate
    | setPipeline layout =>
      simp only [appliesBetweenPipelines, Bool.and_eq_true, Bool.not_eq_true'] at alternate
      obtain ⟨rfl, alternate⟩ := alternate
      exact rest (setPipeline layout s start) alternate
    | didApply => exact rest (didApply pending s start) alternate

/-- A slot the backend keeps bound across a layout change was used by the previous layout. -/
theorem mem_layoutMask_of_inheritsBindGroup {c : Bool}
    {previous : Option (PipelineLayout kMaxBindGroups)} {layout : PipelineLayout kMaxBindGroups}
    {i : Fin kMaxBindGroups} (inherits : inheritsBindGroup c previous layout i = true)
    (used : i ∈ layout.getBindGroupLayoutsMask) : i ∈ layoutMask previous := by
  cases c <;> cases previous <;>
    simp only [inheritsBindGroup, decide_eq_true_eq, Bool.false_eq_true] at inherits
  exact PipelineLayout.mem_getBindGroupLayoutsMask_of_inherited inherits used

/-! ### The mask of the current layout -/

/-- The tracker holds the current layout's mask, and until the next `SetPipeline`
(`pending = false`) the current layout is the last applied one. -/
structure MaskCurrent (pending : Bool)
    (s : BindGroupTrackerBase kMaxBindGroups BindGroup DynamicOffset) : Prop where
  settled : pending = false → s.pipelineLayout = s.lastAppliedPipelineLayout
  mask : s.bindGroupLayoutsMask = layoutMask s.pipelineLayout

section MaskCurrent

variable {c pending : Bool} {s : BindGroupTrackerBase kMaxBindGroups BindGroup DynamicOffset}

theorem maskCurrent_initial :
    MaskCurrent false (.initial : BindGroupTrackerBase kMaxBindGroups BindGroup DynamicOffset) :=
  ⟨fun _ => rfl, rfl⟩

/-- Right after an apply, `OnSetPipeline` leaves the new layout's mask: on its early return the
tracker still holds the mask of the last applied layout, which is the new one. -/
theorem maskCurrent_onSetPipeline (inv : MaskCurrent false s)
    (layout : PipelineLayout kMaxBindGroups) : MaskCurrent true (s.onSetPipeline c layout) := by
  refine ⟨nofun, ?_⟩
  by_cases same : s.lastAppliedPipelineLayout = some layout
  · simp only [onSetPipeline_of_eq s c same]
    rw [inv.mask, inv.settled rfl, same]
  · simp only [onSetPipeline_of_ne s c same]
    rfl

theorem maskCurrent_didApply (inv : MaskCurrent pending s) : MaskCurrent false s.didApply :=
  ⟨fun _ => rfl, inv.mask⟩

variable [DecidableEq BindGroup] [DynamicOffsetType DynamicOffset]

theorem maskCurrent_onSetBindGroup (inv : MaskCurrent pending s) (index : Fin kMaxBindGroups)
    (bindGroup : BindGroup) (dynamicOffsets : List UInt64) :
    MaskCurrent pending (s.onSetBindGroup index bindGroup dynamicOffsets) :=
  ⟨by simpa using inv.settled, by simpa using inv.mask⟩

/-- The invariant holds after every run in which no `SetPipeline` follows another before an
apply. -/
theorem maskCurrent_run (calls : List (TrackerCall kMaxBindGroups BindGroup))
    (inv : MaskCurrent pending s) (alternate : appliesBetweenPipelines pending calls = true) :
    ∃ pending', MaskCurrent pending' (BindGroupTrackerBase.run c s calls) :=
  appliesBetweenPipelines_induction MaskCurrent
    (fun index bindGroup dynamicOffsets _ _ _ inv =>
      maskCurrent_onSetBindGroup inv index bindGroup dynamicOffsets)
    (fun layout _ inv => maskCurrent_onSetPipeline inv layout) (fun _ _ => maskCurrent_didApply)
    inv alternate

end MaskCurrent

/-- When no `SetPipeline` follows another before an apply, the tracker holds the current layout's
mask after every run, and neither dirty set holds a slot the current layout does not use. -/
theorem run_mask_eq_current_layout [DecidableEq BindGroup] [DynamicOffsetType DynamicOffset]
    (c : Bool) (calls : List (TrackerCall kMaxBindGroups BindGroup))
    (alternate : appliesBetweenPipelines false calls = true) :
    (BindGroupTrackerBase.run c .initial calls :
        BindGroupTrackerBase kMaxBindGroups BindGroup DynamicOffset).bindGroupLayoutsMask =
      layoutMask (BindGroupTrackerBase.run c .initial calls :
        BindGroupTrackerBase kMaxBindGroups BindGroup DynamicOffset).pipelineLayout ∧
    (BindGroupTrackerBase.run c .initial calls :
        BindGroupTrackerBase kMaxBindGroups BindGroup DynamicOffset).dirtyBindGroups ⊆
      layoutMask (BindGroupTrackerBase.run c .initial calls :
        BindGroupTrackerBase kMaxBindGroups BindGroup DynamicOffset).pipelineLayout ∧
    (BindGroupTrackerBase.run c .initial calls :
        BindGroupTrackerBase kMaxBindGroups BindGroup DynamicOffset).dirtyBindGroupsObjectChangedOrIsDynamic ⊆
      layoutMask (BindGroupTrackerBase.run c .initial calls :
        BindGroupTrackerBase kMaxBindGroups BindGroup DynamicOffset).pipelineLayout := by
  obtain ⟨_, inv⟩ := maskCurrent_run calls (@maskCurrent_initial _ _ DynamicOffset) alternate
  obtain ⟨inner, outer⟩ := run_induction DirtyNested calls
    (fun _ call _ => dirtyNested_step c call) (@dirtyNested_initial _ _ DynamicOffset)
  rw [← inv.mask]
  exact ⟨rfl, inner.trans outer, outer⟩

/-- `layoutRoundTrip` with an apply before the move back to `layoutA`. -/
def appliedRoundTrip : List (TrackerCall 4 Nat) :=
  [.setPipeline layoutA, .didApply, .setPipeline layoutB, .didApply, .setPipeline layoutA]

theorem run_mask_eq_current_layout_after_applied_round_trip :
    appliesBetweenPipelines false appliedRoundTrip = true ∧
    (BindGroupTrackerBase.run true (.initial : BindGroupTrackerBase 4 Nat UInt64)
      appliedRoundTrip).bindGroupLayoutsMask = layoutA.getBindGroupLayoutsMask :=
  have alternate : appliesBetweenPipelines false appliedRoundTrip = true := by decide
  ⟨alternate, (run_mask_eq_current_layout true appliedRoundTrip alternate).1.trans (by decide)⟩

variable (c : Bool) (dynamicOffsetCount : BindGroup → Nat)

/-- Every used slot outside the bind set holds the tracker's binding natively and keeps it
through the next draw. -/
structure UpToDate (pending : Bool) (e : Encoder kMaxBindGroups BindGroup DynamicOffset)
    extends MaskCurrent pending e.tracker : Prop where
  started : e.tracker.pipelineLayout = none → e.tracker.lastAppliedPipelineLayout = none
  nativeLayout : e.native.layout = e.tracker.lastAppliedPipelineLayout
  counts : ∀ i bindGroup, e.tracker.bindGroups i = some bindGroup →
    (e.tracker.dynamicOffsets i).length = dynamicOffsetCount bindGroup
  bound : ∀ layout, e.tracker.pipelineLayout = some layout →
    ∀ i ∈ e.tracker.bindGroupLayoutsMask,
      i ∉ e.tracker.dirtyBindGroupsObjectChangedOrIsDynamic →
        e.native.slots i = e.tracker.binding i ∧ keepsBinding c e.native.layout layout i = true

theorem upToDate_initial :
    UpToDate c dynamicOffsetCount false (initial : Encoder kMaxBindGroups BindGroup DynamicOffset) where
  toMaskCurrent := maskCurrent_initial
  started _ := rfl
  nativeLayout := rfl
  counts _ _ stored := nomatch stored
  bound _ current := nomatch current

variable [DecidableEq BindGroup] [DynamicOffsetType DynamicOffset] {c dynamicOffsetCount}
  {pending : Bool} {e : Encoder kMaxBindGroups BindGroup DynamicOffset}

theorem upToDate_setBindGroup (inv : UpToDate c dynamicOffsetCount pending e)
    (index : Fin kMaxBindGroups) (bindGroup : BindGroup) (dynamicOffsets : List UInt64)
    (counted : dynamicOffsets.length = dynamicOffsetCount bindGroup) :
    UpToDate c dynamicOffsetCount pending (e.step c (.setBindGroup index bindGroup dynamicOffsets)) where
  toMaskCurrent := maskCurrent_onSetBindGroup inv.toMaskCurrent index bindGroup dynamicOffsets
  started := by simpa [step] using inv.started
  nativeLayout := by simpa [step] using inv.nativeLayout
  counts i g stored := by
    simp only [step, onSetBindGroup_bindGroups, onSetBindGroup_dynamicOffsets] at stored ⊢
    by_cases same : i = index
    · subst same
      obtain rfl : bindGroup = g := by simpa using stored
      simpa [setDynamicOffsets] using counted
    · rw [Function.update_noteq same] at stored ⊢
      exact inv.counts i g stored
  bound layout current i used clean := by
    simp only [step, onSetBindGroup_pipelineLayout, onSetBindGroup_bindGroupLayoutsMask,
      onSetBindGroup_dirtyBindGroupsObjectChangedOrIsDynamic] at current used clean ⊢
    have wasClean : i ∉ e.tracker.dirtyBindGroupsObjectChangedOrIsDynamic := fun dirty =>
      clean (by split_ifs <;> simp [dirty])
    obtain ⟨native, keeps⟩ := inv.bound layout current i used wasClean
    refine ⟨?_, keeps⟩
    rw [native, onSetBindGroup_binding]
    split_ifs with same
    · subst same
      have unchanged : ¬(e.tracker.bindGroups i ≠ some bindGroup ∨ 0 < dynamicOffsets.length) :=
        fun changed => clean (by rw [if_pos ⟨used, changed⟩]; exact Finset.mem_insert_self _ _)
      simp only [not_or, not_not, not_lt, Nat.le_zero, List.length_eq_zero] at unchanged
      obtain ⟨stored, rfl⟩ := unchanged
      have empty : e.tracker.dynamicOffsets i = [] :=
        List.eq_nil_of_length_eq_zero ((inv.counts i bindGroup stored).trans counted.symm)
      simp [binding, stored, empty, setDynamicOffsets]
    · rfl

theorem upToDate_setPipeline (inv : UpToDate c dynamicOffsetCount false e)
    (layout : PipelineLayout kMaxBindGroups) :
    UpToDate c dynamicOffsetCount true (e.step c (.setPipeline layout)) where
  toMaskCurrent := maskCurrent_onSetPipeline inv.toMaskCurrent layout
  started := by simp [step]
  nativeLayout := by simpa [step] using inv.nativeLayout
  counts := by simpa [step] using inv.counts
  bound := by
    have settled := inv.settled rfl
    simp only [step, onSetPipeline_pipelineLayout]
    rintro _ ⟨⟩
    by_cases same : e.tracker.lastAppliedPipelineLayout = some layout
    · simp only [onSetPipeline_of_eq _ c same]
      exact inv.bound layout (settled.trans same)
    · simp only [onSetPipeline_of_ne _ c same, mem_dirtyAfterLayoutChange, not_and, not_or,
        Bool.not_eq_false]
      intro i used clean
      obtain ⟨wasClean, inherits⟩ := clean used
      have wasUsed : i ∈ e.tracker.bindGroupLayoutsMask := by
        rw [inv.mask, settled]
        exact mem_layoutMask_of_inheritsBindGroup inherits used
      cases last : e.tracker.lastAppliedPipelineLayout with
      | none => simp [last, inheritsBindGroup] at inherits
      | some applied =>
        refine ⟨(inv.bound applied (settled.trans last) i wasUsed wasClean).1, ?_⟩
        simp [keepsBinding, inv.nativeLayout, inherits]

theorem upToDate_didApply (inv : UpToDate c dynamicOffsetCount pending e) :
    UpToDate c dynamicOffsetCount false (e.step c .didApply) where
  toMaskCurrent := maskCurrent_didApply inv.toMaskCurrent
  started := id
  nativeLayout := by
    show (e.tracker.apply c e.native).layout = e.tracker.pipelineLayout
    cases current : e.tracker.pipelineLayout with
    | none => simp [apply, current, inv.nativeLayout, inv.started current]
    | some layout => simp [apply_of_pipelineLayout current]
  counts := inv.counts
  bound layout current i used _ := by
    change e.tracker.pipelineLayout = some layout at current
    show (e.tracker.apply c e.native).slots i = e.tracker.binding i ∧
      keepsBinding c (e.tracker.apply c e.native).layout layout i = true
    rw [apply_of_pipelineLayout current]
    refine ⟨?_, by simp [keepsBinding]⟩
    rw [bindSlots_slots, switchLayout_slots]
    by_cases dirty : i ∈ e.tracker.dirtyBindGroupsObjectChangedOrIsDynamic
    · rw [if_pos dirty]
    · obtain ⟨native, keeps⟩ := inv.bound layout current i used dirty
      rw [if_neg dirty, if_pos keeps, native]

/-- The invariant holds after every run in which no `SetPipeline` follows another before an
apply and every group gets its layout's number of offsets. -/
theorem upToDate_run (calls : List (TrackerCall kMaxBindGroups BindGroup))
    (inv : UpToDate c dynamicOffsetCount pending e)
    (alternate : appliesBetweenPipelines pending calls = true)
    (counted : ∀ call ∈ calls, OffsetCountMatches dynamicOffsetCount call) :
    ∃ pending', UpToDate c dynamicOffsetCount pending' (e.run c calls) :=
  appliesBetweenPipelines_induction (UpToDate c dynamicOffsetCount)
    (fun index bindGroup dynamicOffsets mem _ _ inv =>
      upToDate_setBindGroup inv index bindGroup dynamicOffsets (counted _ mem))
    (fun layout _ inv => upToDate_setPipeline inv layout) (fun _ _ => upToDate_didApply) inv
    alternate

/-- After each apply of a run in which no `SetPipeline` follows another before an apply, and
every group gets as many offsets as its layout has dynamic bindings, every slot of the current
layout natively holds, validly, the tracker's group and offsets, as on the naive backend. -/
theorem apply_binds_as_naive (c : Bool) (dynamicOffsetCount : BindGroup → Nat)
    (calls : List (TrackerCall kMaxBindGroups BindGroup))
    (alternate : appliesBetweenPipelines false calls = true)
    (counted : ∀ call ∈ calls, OffsetCountMatches dynamicOffsetCount call)
    (layout : PipelineLayout kMaxBindGroups)
    (current : (run c (initial : Encoder kMaxBindGroups BindGroup DynamicOffset)
      calls).tracker.pipelineLayout = some layout) :
    let e := run c (initial : Encoder kMaxBindGroups BindGroup DynamicOffset)
      (calls ++ [.didApply])
    e.native.layout = some layout ∧
      ∀ i ∈ layout.getBindGroupLayoutsMask,
        e.native.slots i = e.tracker.binding i ∧ e.naive.slots i = e.tracker.binding i := by
  have start : UpToDate c dynamicOffsetCount false
      (initial : Encoder kMaxBindGroups BindGroup DynamicOffset) :=
    upToDate_initial c dynamicOffsetCount
  obtain ⟨pending, inv⟩ := upToDate_run calls start alternate counted
  have after := upToDate_didApply inv
  simp only [run_append, run_cons, run_nil]
  refine ⟨after.nativeLayout.trans current, fun i used => ⟨?_, ?_⟩⟩
  · refine (after.bound layout current i ?_ (Finset.not_mem_empty i)).1
    rw [after.mask]
    exacts [current ▸ used]
  · show ((run c initial calls).tracker.applyAll c (run c initial calls).naive).slots i = _
    rw [applyAll_of_pipelineLayout current, bindSlots_slots, if_pos used]
    rfl

/-- A layout that shares slot 0 with `layoutB` and has another bind group layout at slot 1. -/
def layoutD : PipelineLayout 4 := ⟨3, ![some ⟨0⟩, some ⟨2⟩, none, none]⟩

/-- Draw with groups 10 and 11 at slots 0 and 1 under `layoutB`, move to `layoutD`, which
inherits slot 0, and set group 13 at slot 1. -/
def inheritSlotZero : List (TrackerCall 4 Nat) :=
  [.setPipeline layoutB, .setBindGroup 0 10 [], .setBindGroup 1 11 [], .didApply,
    .setPipeline layoutD, .setBindGroup 1 13 []]

/-- At the second draw slot 0 is clean, inherited from the first draw, and slot 1 is dirty. -/
theorem apply_binds_as_naive_after_inherited_draw :
    appliesBetweenPipelines false inheritSlotZero = true ∧
    (∀ call ∈ inheritSlotZero, OffsetCountMatches (fun _ => 0) call) ∧
    (run true (initial : Encoder 4 Nat UInt64) inheritSlotZero).tracker.pipelineLayout =
      some layoutD ∧
    0 ∉ (run true (initial : Encoder 4 Nat UInt64)
      inheritSlotZero).tracker.dirtyBindGroupsObjectChangedOrIsDynamic ∧
    (run true (initial : Encoder 4 Nat UInt64) (inheritSlotZero ++ [.didApply])).native.layout =
      some layoutD ∧
    ∀ i ∈ layoutD.getBindGroupLayoutsMask,
      (run true (initial : Encoder 4 Nat UInt64) (inheritSlotZero ++ [.didApply])).native.slots i =
        (run true (initial : Encoder 4 Nat UInt64)
          (inheritSlotZero ++ [.didApply])).tracker.binding i ∧
      (run true (initial : Encoder 4 Nat UInt64) (inheritSlotZero ++ [.didApply])).naive.slots i =
        (run true (initial : Encoder 4 Nat UInt64)
          (inheritSlotZero ++ [.didApply])).tracker.binding i :=
  have alternate : appliesBetweenPipelines false inheritSlotZero = true := by decide
  have counted : ∀ call ∈ inheritSlotZero, OffsetCountMatches (fun _ => 0) call := by decide
  have current : (run true (initial : Encoder 4 Nat UInt64) inheritSlotZero).tracker.pipelineLayout =
      some layoutD := by decide
  ⟨alternate, counted, current, by decide,
    apply_binds_as_naive true (fun _ => 0) inheritSlotZero alternate counted layoutD current⟩

/-! ### A lost update -/

/-- A layout with the same bind group layouts as `layoutB`, as another object. -/
def layoutC : PipelineLayout 4 := ⟨2, ![some ⟨0⟩, some ⟨1⟩, none, none]⟩

/-- Draw with groups 10 and 11 at slots 0 and 1 under `layoutB`, move to `layoutA`, which does
not use slot 1, set group 12 at slot 1, then move to `back` and draw. -/
def setUnusedSlot (back : PipelineLayout 4) : List (TrackerCall 4 Nat) :=
  [.setPipeline layoutB, .setBindGroup 0 10 [], .setBindGroup 1 11 [], .didApply,
    .setPipeline layoutA, .setBindGroup 1 12 [], .setPipeline back, .didApply]

/-- Back at the last applied layout (either backend), or at a layout that inherits slot 1 from
it (a backend that inherits bind groups), slot 1 keeps group 11 natively while the tracker and
the naive backend have group 12. -/
theorem lost_update_after_unused_slot_set :
    (∀ c, 1 ∈ layoutB.getBindGroupLayoutsMask ∧
      (run c (initial : Encoder 4 Nat UInt64) (setUnusedSlot layoutB)).tracker.pipelineLayout =
        some layoutB ∧
      (run c (initial : Encoder 4 Nat UInt64) (setUnusedSlot layoutB)).native.slots 1 =
        some ⟨11, []⟩ ∧
      (run c (initial : Encoder 4 Nat UInt64) (setUnusedSlot layoutB)).tracker.binding 1 =
        some ⟨12, []⟩ ∧
      (run c (initial : Encoder 4 Nat UInt64) (setUnusedSlot layoutB)).naive.slots 1 =
        some ⟨12, []⟩) ∧
    1 ∈ layoutC.getBindGroupLayoutsMask ∧
    (run true (initial : Encoder 4 Nat UInt64) (setUnusedSlot layoutC)).tracker.pipelineLayout =
      some layoutC ∧
    (run true (initial : Encoder 4 Nat UInt64) (setUnusedSlot layoutC)).native.slots 1 =
      some ⟨11, []⟩ ∧
    (run true (initial : Encoder 4 Nat UInt64) (setUnusedSlot layoutC)).naive.slots 1 =
      some ⟨12, []⟩ :=
  ⟨fun c => by cases c <;> decide, by decide⟩

end Dawn.Native.Encoder

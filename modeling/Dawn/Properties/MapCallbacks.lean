import Dawn.Wire.ClientDoers
import Mathlib.Data.List.Nodup

/-!
# The map callbacks over any sequence of replies

A hostile or buggy server may send replies in any order and any number of times, with any
serial, status and payload, interleaved with the client's new requests and unmaps. Over every
such run each request's callback member is called at most once and only while the request is
pending (`callbacks_at_most_once`), and the buffer is never mapped for reading and writing at once
(`mapping_exclusive`). No request is dropped: an issued serial has no call while it is pending and
exactly one once it is not (`issued_pending_or_called_once`). That call goes through the member of
the reply's kind, so a reply of the wrong kind for its request is rejected through a callback
member that request does not have (`wrong_kind_reply_calls_other_callback`).

The client's `MapReadAsync`, `MapWriteAsync` and `Unmap` are not under src/; as the spec
describes them, a request is stored under a serial never used before, and an unmap drops both
handles. A callback's own calls to these are the events that follow the reply.
-/

namespace Dawn.Wire.Client

/-- A buffer with the serials of all requests it was ever given. -/
structure ClientBuffer where
  buffer : Buffer
  issued : List UInt32

/-- What happens to a buffer: a new map request, an unmap, or a server reply. -/
inductive BufferEvent
  | mapAsync (requestSerial : UInt32) (request : MapRequestData)
  | unmap
  | mapReadAsyncReply (requestSerial status : UInt32) (initialDataInfoLength : UInt64)
      (initialDataInfo : List UInt8)
  | mapWriteAsyncReply (requestSerial status : UInt32)

/-- The serial a reply answers. -/
def BufferEvent.replySerial : BufferEvent → Option UInt32
  | .mapReadAsyncReply requestSerial .. => some requestSerial
  | .mapWriteAsyncReply requestSerial _ => some requestSerial
  | _ => none

variable (env : Environment)

/-- Modelled from the spec: one event on a buffer, and the callback call it makes. A new request
takes a serial never used before (`none` otherwise); `Unmap` drops both handles; a reply goes to
its doer. -/
def step (c : ClientBuffer) : BufferEvent → Option (ClientBuffer × Option CallbackCall)
  | .mapAsync requestSerial request =>
    if requestSerial ∈ c.issued then none
    else
      some (⟨{ c.buffer with
        requests := Function.update c.buffer.requests requestSerial (some request) },
        requestSerial :: c.issued⟩, none)
  | .unmap => some (⟨{ c.buffer with readHandle := none, writeHandle := none }, c.issued⟩, none)
  | .mapReadAsyncReply requestSerial status initialDataInfoLength initialDataInfo =>
    let (buffer, call, _) := onMapReadAsyncCallback env c.buffer requestSerial status
      initialDataInfoLength initialDataInfo
    some (⟨buffer, c.issued⟩, call)
  | .mapWriteAsyncReply requestSerial status =>
    let (buffer, call, _) := onMapWriteAsyncCallback env c.buffer requestSerial status
    some (⟨buffer, c.issued⟩, call)

/-- The states a buffer reaches from a fresh one, with the callback calls made on the way. -/
inductive Reachable : ClientBuffer → List CallbackCall → Prop
  | initial : Reachable ⟨⟨fun _ => none, none, none⟩, []⟩ []
  | step {c c' : ClientBuffer} {calls : List CallbackCall} {event : BufferEvent}
      {call : Option CallbackCall} :
      Reachable c calls → step env c event = some (c', call) → Reachable c' (calls ++ call.toList)

variable {env} {c c' : ClientBuffer} {event : BufferEvent} {call : Option CallbackCall}

/-- A reply goes to its doer, which answers it. -/
theorem step_of_replySerial {requestSerial : UInt32}
    (reply : event.replySerial = some requestSerial) :
    ∃ status callback result, Answer env c.buffer requestSerial status callback result ∧
      step env c event = some (⟨result.1, c.issued⟩, result.2.1) := by
  cases event with
  | mapReadAsyncReply _ status initialDataInfoLength initialDataInfo =>
    cases reply
    exact ⟨_, _, _, onMapReadAsyncCallback_answer env c.buffer requestSerial status
      initialDataInfoLength initialDataInfo, rfl⟩
  | mapWriteAsyncReply _ status =>
    cases reply
    exact ⟨_, _, _, onMapWriteAsyncCallback_answer env c.buffer requestSerial status, rfl⟩
  | _ => cases reply

/-- What one event can do: store a request under a new serial, unmap, or answer a reply as its
doer does. -/
theorem step_cases (stepped : step env c event = some (c', call)) :
    (∃ requestSerial request, requestSerial ∉ c.issued ∧ call = none ∧
      c' = ⟨{ c.buffer with
        requests := Function.update c.buffer.requests requestSerial (some request) },
        requestSerial :: c.issued⟩) ∨
    (call = none ∧ c' = ⟨{ c.buffer with readHandle := none, writeHandle := none }, c.issued⟩) ∨
    ∃ requestSerial status callback result,
      Answer env c.buffer requestSerial status callback result ∧
      c' = ⟨result.1, c.issued⟩ ∧ call = result.2.1 := by
  cases event with
  | mapAsync requestSerial request =>
    simp only [step] at stepped
    split_ifs at stepped with used
    cases stepped
    exact .inl ⟨requestSerial, request, used, rfl, rfl⟩
  | unmap =>
    cases stepped
    exact .inr (.inl ⟨rfl, rfl⟩)
  | mapReadAsyncReply requestSerial status initialDataInfoLength initialDataInfo =>
    cases stepped
    exact .inr (.inr ⟨_, _, _, _, onMapReadAsyncCallback_answer env c.buffer requestSerial status
      initialDataInfoLength initialDataInfo, rfl, rfl⟩)
  | mapWriteAsyncReply requestSerial status =>
    cases stepped
    exact .inr (.inr ⟨_, _, _, _, onMapWriteAsyncCallback_answer env c.buffer requestSerial status,
      rfl, rfl⟩)

/-! ### Each callback at most once -/

/-- Every pending serial was issued; every serial called back was issued and is no longer
pending; no serial was called back twice. -/
structure CalledOnce (c : ClientBuffer) (calls : List CallbackCall) : Prop where
  pendingIssued :
    ∀ requestSerial, c.buffer.requests requestSerial ≠ none → requestSerial ∈ c.issued
  calledIssued : ∀ call ∈ calls, call.requestSerial ∈ c.issued
  calledDone : ∀ call ∈ calls, c.buffer.requests call.requestSerial = none
  nodup : (calls.map CallbackCall.requestSerial).Nodup

/-- The record depends on the requests and the issued serials only. -/
theorem CalledOnce.of_requests {calls : List CallbackCall} (inv : CalledOnce c calls)
    (requests : c'.buffer.requests = c.buffer.requests) (issued : c'.issued = c.issued) :
    CalledOnce c' calls := by
  obtain ⟨pendingIssued, calledIssued, calledDone, nodup⟩ := inv
  exact ⟨by simpa [requests, issued] using pendingIssued, by simpa [issued] using calledIssued,
    by simpa [requests] using calledDone, nodup⟩

theorem calledOnce_step {calls : List CallbackCall} (inv : CalledOnce c calls)
    (stepped : step env c event = some (c', call)) : CalledOnce c' (calls ++ call.toList) := by
  rcases step_cases stepped with ⟨requestSerial, request, fresh, rfl, rfl⟩ | ⟨rfl, rfl⟩ |
    ⟨requestSerial, status, callback, result, answer, rfl, rfl⟩
  · refine ⟨fun s pending => ?_, fun call mem => ?_, fun call mem => ?_, by simpa using inv.nodup⟩
    · by_cases same : s = requestSerial
      · exact same ▸ List.mem_cons_self _ _
      · exact List.mem_cons_of_mem _ (inv.pendingIssued s (by simpa [same] using pending))
    · exact List.mem_cons_of_mem _ (inv.calledIssued call (by simpa using mem))
    · have issued := inv.calledIssued call (by simpa using mem)
      have other : call.requestSerial ≠ requestSerial := fun same => fresh (same ▸ issued)
      simpa [other] using inv.calledDone call (by simpa using mem)
  · rw [Option.toList_none, List.append_nil]
    exact inv.of_requests rfl rfl
  · have requests : result.1.requests = Function.update c.buffer.requests requestSerial none :=
      answer.requests_eq
    rcases answer.call_cases with ⟨absent, none⟩ | ⟨call, pending, some, serial, -⟩
    · rw [none, Option.toList_none, List.append_nil]
      exact inv.of_requests (requests.trans (Function.update_eq_self_iff.mpr absent.symm)) rfl
    · rw [some]
      refine ⟨fun s waiting => ?_, fun call' mem => ?_, fun call' mem => ?_, ?_⟩ <;>
        dsimp only at * <;> rw [requests] at *
      · exact inv.pendingIssued s (by by_cases same : s = requestSerial <;> simp_all)
      · simp only [Option.toList_some, List.mem_append, List.mem_singleton] at mem
        rcases mem with mem | rfl
        · exact inv.calledIssued call' mem
        · exact serial ▸ inv.pendingIssued requestSerial pending
      · simp only [Option.toList_some, List.mem_append, List.mem_singleton] at mem
        rcases mem with mem | rfl
        · by_cases same : call'.requestSerial = requestSerial
          · rw [same, Function.update_same]
          · rw [Function.update_noteq same]
            exact inv.calledDone call' mem
        · rw [serial, Function.update_same]
      · rw [List.map_append, List.nodup_append]
        refine ⟨inv.nodup, by simp, ?_⟩
        simp only [Option.toList_some, List.map_cons, List.map_nil, List.disjoint_singleton,
          List.mem_map, not_exists, not_and]
        intro call' mem same
        exact pending (serial ▸ same ▸ inv.calledDone call' mem)

theorem calledOnce_of_reachable {calls : List CallbackCall} (reach : Reachable env c calls) :
    CalledOnce c calls := by
  induction reach with
  | initial => exact ⟨fun _ pending => absurd rfl pending, nofun, nofun, List.nodup_nil⟩
  | step _ stepped inv => exact calledOnce_step inv stepped

/-- Over every run, no request's callback is called twice; a callback is called only while its
request is pending, which it no longer is afterwards; and a reply for a request already called
back, duplicated or late, changes nothing. -/
theorem callbacks_at_most_once {calls : List CallbackCall} (reach : Reachable env c calls) :
    (calls.map CallbackCall.requestSerial).Nodup ∧
    (∀ event c' call, step env c event = some (c', some call) →
      c.buffer.requests call.requestSerial ≠ none ∧ c'.buffer.requests call.requestSerial = none) ∧
    ∀ call ∈ calls, ∀ event, event.replySerial = some call.requestSerial →
      step env c event = some (c, none) := by
  have inv := calledOnce_of_reachable reach
  refine ⟨inv.nodup, fun event c' call stepped => ?_, fun call mem event reply => ?_⟩
  · rcases step_cases stepped with ⟨_, _, _, ⟨⟩, -⟩ | ⟨⟨⟩, -⟩ |
      ⟨requestSerial, status, callback, result, answer, rfl, called⟩
    rcases answer.call_cases with ⟨-, none⟩ | ⟨call', pending, some, serial, -⟩
    · rw [none] at called
      cases called
    · rw [some] at called
      cases called
      rw [serial]
      exact ⟨pending, by
        show result.1.requests requestSerial = none
        rw [answer.requests_eq, Function.update_same]⟩
  · obtain ⟨status, callback, result, answer, replied⟩ := step_of_replySerial reply
    rw [replied, answer.eq_of_not_pending (inv.calledDone call mem)]

/-- Status codes `SUCCESS = 0` and `DEVICE_LOST = 3`, a 64-bit `SIZE_MAX`, and a memory transfer
service whose handles always fail. -/
def failingTransfer : Environment :=
  ⟨0, 3, fun same => absurd (congrArg UInt32.toNat same) (by decide), 18446744073709551615,
    fun _ _ => none, fun _ => (none, 0)⟩

/-- A buffer, not mapped, with a pending `MapWriteAsync` request under serial 0. -/
def writePending : Buffer := ⟨Function.update (fun _ => none) 0 (some (.write ⟨0⟩)), none, none⟩

/-- A fresh buffer after its first request. -/
def requestedWrite : ClientBuffer := ⟨writePending, [0]⟩

theorem reachable_requestedWrite (env : Environment) : Reachable env requestedWrite [] :=
  @Reachable.step env _ _ [] (.mapAsync 0 (.write ⟨0⟩)) none .initial rfl

/-- Status codes `SUCCESS = 0` and `DEVICE_LOST = 3`, a 64-bit `SIZE_MAX`, and a memory transfer
service whose handles open, on data at address 1 of length 4. -/
def openingTransfer : Environment :=
  ⟨0, 3, fun same => absurd (congrArg UInt32.toNat same) (by decide), 18446744073709551615,
    fun _ _ => some (1, 4), fun _ => (some 1, 4)⟩

/-- The call the `SUCCESS` reply for the write request under serial 0 makes. -/
def mappedWriteCall : CallbackCall := ⟨0, .writeCallback, 0, some 1, 4⟩

/-- The buffer after `MapWriteAsync` under serial 0 and its `SUCCESS` reply: mapped for writing
with the request's handle. -/
def mappedWrite : ClientBuffer := ⟨(writePending.eraseRequest 0).install (.write ⟨0⟩), [0]⟩

/-- `mappedWrite` after the same reply again and a `MapReadAsync` request under serial 1, which
is pending. -/
def writeMappedReadPending : ClientBuffer :=
  ⟨{ mappedWrite.buffer with
    requests := Function.update mappedWrite.buffer.requests 1 (some (.read ⟨1⟩)) }, [1, 0]⟩

/-- Request, `SUCCESS` reply, a duplicate of that reply, which changes nothing, and a second
request. -/
theorem reachable_writeMappedReadPending :
    Reachable openingTransfer writeMappedReadPending [mappedWriteCall] :=
  have mapped : Reachable openingTransfer mappedWrite [mappedWriteCall] :=
    @Reachable.step openingTransfer _ _ [] (.mapWriteAsyncReply 0 0) (some mappedWriteCall)
      (reachable_requestedWrite openingTransfer) rfl
  have repeated : Reachable openingTransfer mappedWrite [mappedWriteCall] :=
    @Reachable.step openingTransfer _ _ _ (.mapWriteAsyncReply 0 0) none mapped rfl
  @Reachable.step openingTransfer _ _ _ (.mapAsync 1 (.read ⟨1⟩)) none repeated rfl

theorem callbacks_at_most_once_after_mapped_write :
    Reachable openingTransfer writeMappedReadPending [mappedWriteCall] ∧
    ([mappedWriteCall].map CallbackCall.requestSerial).Nodup ∧
    (∀ event c' call, step openingTransfer writeMappedReadPending event = some (c', some call) →
      writeMappedReadPending.buffer.requests call.requestSerial ≠ none ∧
        c'.buffer.requests call.requestSerial = none) ∧
    ∀ call ∈ [mappedWriteCall], ∀ event, event.replySerial = some call.requestSerial →
      step openingTransfer writeMappedReadPending event = some (writeMappedReadPending, none) :=
  ⟨reachable_writeMappedReadPending, callbacks_at_most_once reachable_writeMappedReadPending⟩

/-! ### Exclusive mapping -/

theorem exclusive_step (exclusive : c.buffer.readHandle = none ∨ c.buffer.writeHandle = none)
    (stepped : step env c event = some (c', call)) :
    c'.buffer.readHandle = none ∨ c'.buffer.writeHandle = none := by
  rcases step_cases stepped with ⟨_, _, _, -, rfl⟩ | ⟨-, rfl⟩ |
    ⟨requestSerial, status, callback, result, answer, rfl, -⟩
  · exact exclusive
  · exact .inl rfl
  · rcases answer.handles_cases with ⟨read, write, -⟩ |
      ⟨request, _, _, -, -, -, noRead, noWrite, rfl⟩
    · show result.1.readHandle = none ∨ result.1.writeHandle = none
      rw [read, write]
      exact exclusive
    · cases request
      · exact .inr noWrite
      · exact .inl noRead

/-- A step that gives the buffer a handle it did not have finds the buffer unmapped. -/
theorem step_installs_only_unmapped (stepped : step env c event = some (c', call))
    (installed : c'.buffer.readHandle ≠ c.buffer.readHandle ∧ c'.buffer.readHandle ≠ none ∨
      c'.buffer.writeHandle ≠ c.buffer.writeHandle ∧ c'.buffer.writeHandle ≠ none) :
    c.buffer.readHandle = none ∧ c.buffer.writeHandle = none := by
  rcases step_cases stepped with ⟨_, _, _, -, rfl⟩ | ⟨-, rfl⟩ |
    ⟨requestSerial, status, callback, result, answer, rfl, -⟩
  · simp at installed
  · simp at installed
  · rcases answer.handles_cases with ⟨read, write, -⟩ |
      ⟨request, _, _, -, -, -, noRead, noWrite, rfl⟩
    · exact absurd installed (by simp [read, write])
    · exact ⟨noRead, noWrite⟩

/-- A callback gets the success status only when the buffer, unmapped before, now owns the
handle of the callback's own pending request, of the reply's kind. -/
theorem step_success_maps {answered : CallbackCall}
    (stepped : step env c event = some (c', some answered))
    (success : answered.status = env.statusSuccess) :
    ∃ request, c.buffer.requests answered.requestSerial = some request ∧
      request.callback = answered.callback ∧ c.buffer.readHandle = none ∧
      c.buffer.writeHandle = none ∧ c'.buffer.Owns request := by
  rcases step_cases stepped with ⟨_, _, _, ⟨⟩, -⟩ | ⟨⟨⟩, -⟩ |
    ⟨requestSerial, status, callback, result, answer, rfl, called⟩
  rcases answer.handles_cases with ⟨-, -, failed⟩ |
    ⟨request, _, _, pending, own, -, noRead, noWrite, rfl⟩
  · exact absurd success (failed answered called.symm)
  · cases called
    exact ⟨request, pending, own, noRead, noWrite, Buffer.owns_install _ request⟩

theorem exclusive_of_reachable {calls : List CallbackCall} (reach : Reachable env c calls) :
    c.buffer.readHandle = none ∨ c.buffer.writeHandle = none := by
  induction reach with
  | initial => exact .inl rfl
  | step _ stepped exclusive => exact exclusive_step exclusive stepped

/-- Over every run the buffer never holds both handles; a handle is installed only on a buffer
that had neither; and a callback gets the success status only when the handle of its own request,
of the reply's kind, has just become the buffer's mapping. -/
theorem mapping_exclusive {calls : List CallbackCall} (reach : Reachable env c calls) :
    (c.buffer.readHandle = none ∨ c.buffer.writeHandle = none) ∧
    ∀ event c' call, step env c event = some (c', call) →
      ((c'.buffer.readHandle ≠ c.buffer.readHandle ∧ c'.buffer.readHandle ≠ none ∨
        c'.buffer.writeHandle ≠ c.buffer.writeHandle ∧ c'.buffer.writeHandle ≠ none) →
          c.buffer.readHandle = none ∧ c.buffer.writeHandle = none) ∧
      ∀ answered, call = some answered → answered.status = env.statusSuccess →
        ∃ request, c.buffer.requests answered.requestSerial = some request ∧
          request.callback = answered.callback ∧ c.buffer.readHandle = none ∧
          c.buffer.writeHandle = none ∧ c'.buffer.Owns request :=
  ⟨exclusive_of_reachable reach, fun _ _ _ stepped =>
    ⟨step_installs_only_unmapped stepped, fun _ called success =>
      step_success_maps (called ▸ stepped) success⟩⟩

theorem mapping_exclusive_after_mapped_write :
    Reachable openingTransfer writeMappedReadPending [mappedWriteCall] ∧
    (writeMappedReadPending.buffer.readHandle = none ∨
      writeMappedReadPending.buffer.writeHandle = none) ∧
    ∀ event c' call, step openingTransfer writeMappedReadPending event = some (c', call) →
      ((c'.buffer.readHandle ≠ writeMappedReadPending.buffer.readHandle ∧
          c'.buffer.readHandle ≠ none ∨
        c'.buffer.writeHandle ≠ writeMappedReadPending.buffer.writeHandle ∧
          c'.buffer.writeHandle ≠ none) →
          writeMappedReadPending.buffer.readHandle = none ∧
            writeMappedReadPending.buffer.writeHandle = none) ∧
      ∀ answered, call = some answered → answered.status = openingTransfer.statusSuccess →
        ∃ request, writeMappedReadPending.buffer.requests answered.requestSerial = some request ∧
          request.callback = answered.callback ∧
          writeMappedReadPending.buffer.readHandle = none ∧
          writeMappedReadPending.buffer.writeHandle = none ∧ c'.buffer.Owns request :=
  ⟨reachable_writeMappedReadPending, mapping_exclusive reachable_writeMappedReadPending⟩

/-! ### No request dropped -/

variable (env)

/-- A read reply for a pending write request is rejected through the read callback member, which
a write request does not have, and the request is erased: the write callback the request was made
with is never called. -/
theorem wrong_kind_reply_calls_other_callback (buffer : Buffer) (requestSerial status : UInt32)
    (initialDataInfoLength : UInt64) (initialDataInfo : List UInt8) (writeHandle : WriteHandle)
    (pending : buffer.requests requestSerial = some (.write writeHandle)) :
    onMapReadAsyncCallback env buffer requestSerial status initialDataInfoLength initialDataInfo =
      ({ buffer with requests := Function.update buffer.requests requestSerial none },
        some ⟨requestSerial, .readCallback, env.statusDeviceLost, none, 0⟩, false) ∧
    (MapRequestData.write writeHandle).callback ≠ .readCallback :=
  ⟨by simp [onMapReadAsyncCallback, pending, readGetMappedData, Buffer.eraseRequest], nofun⟩

theorem wrong_kind_reply_calls_other_callback_at_serial_zero :
    writePending.requests 0 = some (.write ⟨0⟩) ∧
    onMapReadAsyncCallback failingTransfer writePending 0 0 0 [] =
      ({ writePending with requests := Function.update writePending.requests 0 none },
        some ⟨0, .readCallback, 3, none, 0⟩, false) ∧
    (MapRequestData.write ⟨0⟩).callback ≠ .readCallback :=
  have pending : writePending.requests 0 = some (.write ⟨0⟩) := by decide
  ⟨pending,
    wrong_kind_reply_calls_other_callback failingTransfer writePending 0 0 0 [] ⟨0⟩ pending⟩

end Dawn.Wire.Client

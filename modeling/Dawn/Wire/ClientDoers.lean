import Mathlib.Logic.Function.Basic

/-!
# The wire client's map callbacks

`Client::DoBufferMapReadAsyncCallback` and `Client::DoBufferMapWriteAsyncCallback` of
`dawn_wire/client/ClientDoers.cpp`: how the client handles the server's replies to
`MapReadAsync` and `MapWriteAsync`. A buffer keeps its pending map requests by serial, and the
read or write handle of its current mapping.
-/

namespace Dawn.Wire.Client

/-- A memory transfer service read handle, by identity. -/
structure ReadHandle where
  id : Nat
  deriving DecidableEq, Repr

/-- A memory transfer service write handle, by identity. -/
structure WriteHandle where
  id : Nat
  deriving DecidableEq, Repr

/-- `Buffer::MapRequestData`. A `MapReadAsync` request owns a read handle and has a read
callback; a `MapWriteAsync` request owns a write handle and has a write callback. Its other
handle and callback are null. -/
inductive MapRequestData
  | read (readHandle : ReadHandle)
  | write (writeHandle : WriteHandle)
  deriving DecidableEq, Repr

/-- The two callback members of a request. -/
inductive MapCallback
  | readCallback
  | writeCallback
  deriving DecidableEq, Repr

namespace MapRequestData

/-- The callback the request was created with; its other callback member is null. -/
def callback : MapRequestData → MapCallback
  | read _ => .readCallback
  | write _ => .writeCallback

end MapRequestData

/-- The client's `Buffer`, as far as the map callbacks read it. -/
structure Buffer where
  requests : UInt32 → Option MapRequestData
  readHandle : Option ReadHandle
  writeHandle : Option WriteHandle

/-- One call of a request's callback member, with the status, the mapped data (`none` for a
null pointer) and its length. -/
structure CallbackCall where
  requestSerial : UInt32
  callback : MapCallback
  status : UInt32
  data : Option Nat
  dataLength : Nat
  deriving DecidableEq, Repr

/-- What the doers use from outside `ClientDoers.cpp`: the two `DawnBufferMapAsyncStatus` codes
they name, `SIZE_MAX`, and the two handle operations of the memory transfer service. -/
structure Environment where
  statusSuccess : UInt32
  statusDeviceLost : UInt32
  success_ne_deviceLost : statusSuccess ≠ statusDeviceLost
  sizeMax : Nat
  /-- `ReadHandle::DeserializeInitialData`: the mapped data, not null, and its length, or
  `none` when it returns `false`. -/
  deserializeInitialData : ReadHandle → List UInt8 → Option (Nat × Nat)
  /-- `WriteHandle::Open`: the mapped data (`none` for null) and its length. -/
  openWriteHandle : WriteHandle → Option Nat × Nat

namespace Buffer

/-- The buffer with the request of `requestSerial` erased. -/
def eraseRequest (buffer : Buffer) (requestSerial : UInt32) : Buffer :=
  { buffer with requests := Function.update buffer.requests requestSerial none }

/-- The buffer owning the handle of `request` until `Unmap()`. -/
def install (buffer : Buffer) : MapRequestData → Buffer
  | .read readHandle => { buffer with readHandle := some readHandle }
  | .write writeHandle => { buffer with writeHandle := some writeHandle }

/-- The buffer's mapping is the handle of `request`. -/
def Owns (buffer : Buffer) : MapRequestData → Prop
  | .read readHandle => buffer.readHandle = some readHandle
  | .write writeHandle => buffer.writeHandle = some writeHandle

theorem owns_install (buffer : Buffer) (request : MapRequestData) :
    (buffer.install request).Owns request := by
  cases request <;> rfl

@[simp] theorem install_requests (buffer : Buffer) (request : MapRequestData) :
    (buffer.install request).requests = buffer.requests := by
  cases request <;> rfl

end Buffer

variable (env : Environment)

/-- The `GetMappedData` lambda of the read doer: the buffer, mapped data and length it leaves,
or `none` where it returns `false`. -/
def readGetMappedData (buffer : Buffer) (request : MapRequestData) (status : UInt32)
    (initialDataInfoLength : UInt64) (initialDataInfo : List UInt8) :
    Option (Buffer × Option Nat × Nat) :=
  match request with
  | .write _ => none
  | .read readHandle =>
    if status = env.statusSuccess then
      if buffer.readHandle.isSome || buffer.writeHandle.isSome then none
      else if initialDataInfoLength.toNat > env.sizeMax then none
      else
        match env.deserializeInitialData readHandle initialDataInfo with
        | none => none
        | some (mappedData, mappedDataLength) =>
          some ({ buffer with readHandle := some readHandle }, some mappedData, mappedDataLength)
    else some (buffer, none, 0)

/-- The `GetMappedData` lambda of the write doer. -/
def writeGetMappedData (buffer : Buffer) (request : MapRequestData) (status : UInt32) :
    Option (Buffer × Option Nat × Nat) :=
  match request with
  | .read _ => none
  | .write writeHandle =>
    if status = env.statusSuccess then
      if buffer.readHandle.isSome || buffer.writeHandle.isSome then none
      else
        match env.openWriteHandle writeHandle with
        | (none, _) => none
        | (some mappedData, mappedDataLength) =>
          some ({ buffer with writeHandle := some writeHandle }, some mappedData, mappedDataLength)
    else some (buffer, none, 0)

/-- `DoBufferMapReadAsyncCallback` once `buffer` is known not to be null: the buffer afterwards,
the callback call it makes, and its return value. The request is erased before the callback
runs. A reply for a pending `MapWriteAsync` request fails `GetMappedData`, and the source then
calls `request.readCallback`, which that request does not have: a null function pointer, on
which the client crashes. The model records that call as a `DEVICE_LOST` call of the read
callback member, an outcome the source never reaches. -/
def onMapReadAsyncCallback (buffer : Buffer) (requestSerial status : UInt32)
    (initialDataInfoLength : UInt64) (initialDataInfo : List UInt8) :
    Buffer × Option CallbackCall × Bool :=
  match buffer.requests requestSerial with
  | none => (buffer, none, true)
  | some request =>
    let buffer := buffer.eraseRequest requestSerial
    match readGetMappedData env buffer request status initialDataInfoLength initialDataInfo with
    | none => (buffer, some ⟨requestSerial, .readCallback, env.statusDeviceLost, none, 0⟩, false)
    | some (buffer, mappedData, mappedDataLength) =>
      (buffer, some ⟨requestSerial, .readCallback, status, mappedData, mappedDataLength⟩, true)

/-- `DoBufferMapWriteAsyncCallback` once `buffer` is known not to be null. A reply for a pending
`MapReadAsync` request calls `request.writeCallback`, a null function pointer on which the
client crashes; the model records it as a `DEVICE_LOST` call of the write callback member. -/
def onMapWriteAsyncCallback (buffer : Buffer) (requestSerial status : UInt32) :
    Buffer × Option CallbackCall × Bool :=
  match buffer.requests requestSerial with
  | none => (buffer, none, true)
  | some request =>
    let buffer := buffer.eraseRequest requestSerial
    match writeGetMappedData env buffer request status with
    | none => (buffer, some ⟨requestSerial, .writeCallback, env.statusDeviceLost, none, 0⟩, false)
    | some (buffer, mappedData, mappedDataLength) =>
      (buffer, some ⟨requestSerial, .writeCallback, status, mappedData, mappedDataLength⟩, true)

/-- `Client::DoBufferMapReadAsyncCallback`. A reply for a buffer that was deleted (`buffer`
null) is ignored. -/
def doBufferMapReadAsyncCallback (buffer : Option Buffer) (requestSerial status : UInt32)
    (initialDataInfoLength : UInt64) (initialDataInfo : List UInt8) :
    Option Buffer × Option CallbackCall × Bool :=
  match buffer with
  | none => (none, none, true)
  | some buffer =>
    let (buffer, call, result) :=
      onMapReadAsyncCallback env buffer requestSerial status initialDataInfoLength initialDataInfo
    (some buffer, call, result)

/-- `Client::DoBufferMapWriteAsyncCallback`. -/
def doBufferMapWriteAsyncCallback (buffer : Option Buffer) (requestSerial status : UInt32) :
    Option Buffer × Option CallbackCall × Bool :=
  match buffer with
  | none => (none, none, true)
  | some buffer =>
    let (buffer, call, result) := onMapWriteAsyncCallback env buffer requestSerial status
    (some buffer, call, result)

/-- What a doer whose callback member is `callback` can do with a reply of `status` for
`requestSerial`: ignore it, reject it, answer it without a mapping, or map the buffer. -/
inductive Answer (buffer : Buffer) (requestSerial status : UInt32) (callback : MapCallback) :
    Buffer × Option CallbackCall × Bool → Prop
  | ignored : buffer.requests requestSerial = none → Answer buffer requestSerial status callback
      (buffer, none, true)
  | rejected : buffer.requests requestSerial ≠ none → Answer buffer requestSerial status callback
      (buffer.eraseRequest requestSerial,
        some ⟨requestSerial, callback, env.statusDeviceLost, none, 0⟩, false)
  | answered (request : MapRequestData) : buffer.requests requestSerial = some request →
      request.callback = callback → status ≠ env.statusSuccess →
      Answer buffer requestSerial status callback
        (buffer.eraseRequest requestSerial, some ⟨requestSerial, callback, status, none, 0⟩, true)
  | mapped (request : MapRequestData) (mappedData mappedDataLength : Nat) :
      buffer.requests requestSerial = some request → request.callback = callback →
      status = env.statusSuccess → buffer.readHandle = none → buffer.writeHandle = none →
      Answer buffer requestSerial status callback
        ((buffer.eraseRequest requestSerial).install request,
          some ⟨requestSerial, callback, status, some mappedData, mappedDataLength⟩, true)

theorem onMapReadAsyncCallback_answer (buffer : Buffer) (requestSerial status : UInt32)
    (initialDataInfoLength : UInt64) (initialDataInfo : List UInt8) :
    Answer env buffer requestSerial status .readCallback
      (onMapReadAsyncCallback env buffer requestSerial status initialDataInfoLength
        initialDataInfo) := by
  unfold onMapReadAsyncCallback
  cases pending : buffer.requests requestSerial with
  | none => exact .ignored pending
  | some request =>
    have rejected := @Answer.rejected env buffer requestSerial status .readCallback
      (by simp [pending])
    cases request with
    | write _ => exact rejected
    | read readHandle =>
      simp only [readGetMappedData]
      by_cases success : status = env.statusSuccess
      · by_cases mapped : buffer.readHandle.isSome || buffer.writeHandle.isSome
        · simpa [success, Buffer.eraseRequest, mapped] using rejected
        · simp only [Bool.or_eq_true, Option.isSome_iff_ne_none, not_or, not_not] at mapped
          by_cases large : initialDataInfoLength.toNat > env.sizeMax
          · simpa [success, Buffer.eraseRequest, mapped, large] using rejected
          · cases deserialized : env.deserializeInitialData readHandle initialDataInfo with
            | none => simpa [success, Buffer.eraseRequest, mapped, large, deserialized] using rejected
            | some result =>
              simpa [success, Buffer.eraseRequest, mapped, large, deserialized, Buffer.install] using
                Answer.mapped (.read readHandle) result.1 result.2 pending rfl success mapped.1 mapped.2
      · simpa [success] using Answer.answered (.read readHandle) pending rfl success

theorem onMapWriteAsyncCallback_answer (buffer : Buffer) (requestSerial status : UInt32) :
    Answer env buffer requestSerial status .writeCallback
      (onMapWriteAsyncCallback env buffer requestSerial status) := by
  unfold onMapWriteAsyncCallback
  cases pending : buffer.requests requestSerial with
  | none => exact .ignored pending
  | some request =>
    have rejected := @Answer.rejected env buffer requestSerial status .writeCallback
      (by simp [pending])
    cases request with
    | read _ => exact rejected
    | write writeHandle =>
      simp only [writeGetMappedData]
      by_cases success : status = env.statusSuccess
      · by_cases mapped : buffer.readHandle.isSome || buffer.writeHandle.isSome
        · simpa [success, Buffer.eraseRequest, mapped] using rejected
        · simp only [Bool.or_eq_true, Option.isSome_iff_ne_none, not_or, not_not] at mapped
          cases opened : env.openWriteHandle writeHandle with
          | mk mappedData mappedDataLength =>
            cases mappedData with
            | none => simpa [success, Buffer.eraseRequest, mapped, opened] using rejected
            | some mappedData =>
              simpa [success, Buffer.eraseRequest, mapped, opened, Buffer.install] using
                Answer.mapped (.write writeHandle) mappedData mappedDataLength pending rfl success
                  mapped.1 mapped.2
      · simpa [success] using Answer.answered (.write writeHandle) pending rfl success

namespace Answer

variable {env} {buffer : Buffer} {requestSerial status : UInt32} {callback : MapCallback}
  {result : Buffer × Option CallbackCall × Bool}

/-- Every outcome erases the request of the reply's serial. -/
theorem requests_eq (answer : Answer env buffer requestSerial status callback result) :
    result.1.requests = Function.update buffer.requests requestSerial none := by
  cases answer with
  | ignored pending =>
    show buffer.requests = _
    rw [← pending, Function.update_eq_self]
  | mapped request => cases request <;> rfl
  | _ => rfl

/-- A doer calls a callback exactly when the request is pending, with the reply's serial. -/
theorem call_cases (answer : Answer env buffer requestSerial status callback result) :
    (buffer.requests requestSerial = none ∧ result.2.1 = none) ∨
      ∃ call, buffer.requests requestSerial ≠ none ∧ result.2.1 = some call ∧
        call.requestSerial = requestSerial ∧ call.callback = callback := by
  cases answer with
  | ignored pending => exact .inl ⟨pending, rfl⟩
  | rejected pending => exact .inr ⟨_, pending, rfl, rfl, rfl⟩
  | answered _ pending => exact .inr ⟨_, by simp [pending], rfl, rfl, rfl⟩
  | mapped _ _ _ pending => exact .inr ⟨_, by simp [pending], rfl, rfl, rfl⟩

/-- A doer either leaves both handles as they were, or maps a buffer that had neither with
the handle of the pending request of its own kind, and calls back with the success status. -/
theorem handles_cases (answer : Answer env buffer requestSerial status callback result) :
    (result.1.readHandle = buffer.readHandle ∧ result.1.writeHandle = buffer.writeHandle ∧
      ∀ call, result.2.1 = some call → call.status ≠ env.statusSuccess) ∨
    ∃ request mappedData mappedDataLength,
      buffer.requests requestSerial = some request ∧ request.callback = callback ∧
      status = env.statusSuccess ∧ buffer.readHandle = none ∧ buffer.writeHandle = none ∧
      result = ((buffer.eraseRequest requestSerial).install request,
        some ⟨requestSerial, callback, status, some mappedData, mappedDataLength⟩, true) := by
  cases answer with
  | ignored _ => exact .inl ⟨rfl, rfl, nofun⟩
  | rejected _ =>
    exact .inl ⟨rfl, rfl, by rintro _ ⟨⟩; exact env.success_ne_deviceLost.symm⟩
  | answered _ _ _ failed => exact .inl ⟨rfl, rfl, by rintro _ ⟨⟩; exact failed⟩
  | mapped request mappedData mappedDataLength pending own success noRead noWrite =>
    exact .inr ⟨request, mappedData, mappedDataLength, pending, own, success, noRead, noWrite, rfl⟩

/-- A reply for a serial that is not pending changes nothing and calls nothing. -/
theorem eq_of_not_pending (answer : Answer env buffer requestSerial status callback result)
    (absent : buffer.requests requestSerial = none) : result = (buffer, none, true) := by
  cases answer with
  | ignored => rfl
  | rejected pending => exact absurd absent pending
  | answered _ pending | mapped _ _ _ pending => simp [absent] at pending

end Answer

end Dawn.Wire.Client

import XIoT.RuntimeMirror
import XIoT.SystemService

/-!
# Failed reads

A read from `acquisition_scan` to the runtime store: its request waits in the queue of
the dispatcher, goes to a service, and the response comes back through the response
queue. Writes of other tasks share the dispatcher and the bus. The state remembers how
the latest finished read of each tag ended.
-/

namespace XIoT.FailedReads

open Lib.Runs Modbus
open ProtocolDispatcher (protocolDispatcherPost serviceOf)

structure ReadPath where
  /-- The index in the loop of `acquisition_scan`, none outside of it. -/
  scan : Option Nat
  gQueue : List ProtocolRequest
  /-- The request that the dispatcher task has received. -/
  request : Option ProtocolRequest
  bus : BusSystem
  /-- Whether the latest finished read of a tag was rejected by the dispatcher or by
  `modbus_read_request`, or reported to `on_modbus_error`. -/
  lastReadFailed : BitVec 32 → Bool

/-- After the initialisations, before the first scan. -/
def ReadPath.boot (reg : Registry) : ReadPath := ⟨none, [], none, .boot reg, fun _ => false⟩

inductive ReadStep where
  | startScan
  /-- One round of the loop of `acquisition_scan`; `value` is what the stack held. -/
  | scanNext (gState : DispatcherState) (value : TagValue)
  /-- The subscriber or the core posts a write. -/
  | postWrite (gState : DispatcherState) (request : ProtocolRequest)
  | receive
  /-- `dispatch_request`, with what the services find. -/
  | dispatch (gInitialized : Bool) (ans : BusAnswers) (state : Core.WsState) (value : TagValue)
  | data (i : Nat) (msg : List Byte) (u : Uninit)
  | error (i : Nat) (u : Uninit)
  /-- One response in `acquisition_task`, between two scans. -/
  | apply (now : BitVec 32) (taken : Bool)

namespace ReadPath

/-- A read of a tag has ended. -/
def finish (s : ReadPath) (tagId : BitVec 32) (failed : Bool) : ReadPath :=
  { s with lastReadFailed := Function.update s.lastReadFailed tagId failed }

/-- A callback has ended the request it answers. -/
def answered (s : ReadPath) (p : Pending) (failed : Bool) : ReadPath :=
  if p.operation = .read then s.finish p.frame.token failed else s

/-- `protocol_dispatcher_post`, which waits for room in the queue. -/
def postRequest (s : ReadPath) (gState : DispatcherState) (request : ProtocolRequest) :
    ReadPath × SysStatus :=
  let r := protocolDispatcherPost ⟨gState, s.gQueue⟩ (some request)
    (decide (s.gQueue.length < ProtocolDispatcher.queueLength))
  ({ s with gQueue := r.1.gQueue }, r.2)

/-- A frame, if there is one, goes on the bus. -/
def send (s : ReadPath) (frame : Option Frame) (operation : ProtocolOp) : ReadPath :=
  { s with
    bus := { s.bus with
      pending := s.bus.pending ++ (frame.map fun frame => ⟨frame, operation⟩).toList } }

end ReadPath

/-- The request of a read in `acquisition_scan`, and what it does when the post fails. -/
def scanTag (s : ReadPath) (gState : DispatcherState) (tag : TagConfig) (value : TagValue) :
    ReadPath :=
  let r := s.postRequest gState ⟨some tag, .read, value⟩
  if r.2 = .ok then r.1 else r.1.finish tag.tagId true

/-- `dispatch_request` with the service function it calls. -/
def dispatchTag (s : ReadPath) (request : ProtocolRequest) (tag : TagConfig)
    (gInitialized : Bool) (ans : BusAnswers) (state : Core.WsState) (value : TagValue) :
    ReadPath :=
  match serviceOf tag request.operation with
  | some .modbusRead =>
    let r := modbusReadRequest gInitialized (some request) ans
    if r.1 = .ok then s.send r.2 .read else (s.send r.2 .read).finish tag.tagId true
  | some .modbusWrite => s.send (modbusWriteRequest gInitialized (some request) ans).2 .write
  | some .systemRead =>
    match SystemService.systemServiceReadRequest (some request) state value with
    | .error _ => s
    | .ok response =>
      { s with bus := s.bus.post .read ⟨s.bus.gModbusCommHealthy, [], some response⟩ }.finish
        tag.tagId false
  | none => s

def readStep (reg : Registry) (s : ReadPath) : ReadStep → Option ReadPath
  | .startScan => if s.scan = none then some { s with scan := some 0 } else none
  | .scanNext gState value =>
    match s.scan with
    | none => none
    | some i =>
      match reg.tagGetAt i with
      | none => some { s with scan := none }
      | some tag =>
        let next := { s with scan := some (i + 1) }
        some (if tag.access = .writeOnly then next else scanTag next gState tag value)
  | .postWrite gState request =>
    if request.operation = .write then some (s.postRequest gState request).1 else none
  | .receive =>
    match s.request, s.gQueue with
    | none, request :: rest => some { s with gQueue := rest, request := some request }
    | _, _ => none
  | .dispatch gInitialized ans state value =>
    match s.request with
    | none => none
    | some request =>
      request.tag.map fun tag =>
        dispatchTag { s with request := none } request tag gInitialized ans state value
  | .data i msg u =>
    match s.bus.pending[i]? with
    | none => none
    | some p =>
      (busStep reg s.bus (.data i msg u)).map fun bus => { s with bus := bus }.answered p false
  | .error i u =>
    match s.bus.pending[i]? with
    | none => none
    | some p =>
      (busStep reg s.bus (.error i u)).map fun bus => { s with bus := bus }.answered p true
  | .apply now taken =>
    if s.scan = none then
      (busStep reg s.bus (.apply now taken)).map fun bus => { s with bus := bus }
    else none

/-- While no response is queued, a tag whose latest read failed is not valid. -/
def FailedInvalid (reg : Registry) (s : ReadPath) : Prop :=
  s.bus.gAcqResponseQueue = [] → ∀ tag ∈ reg.gTags, tag.access ≠ .writeOnly →
    s.lastReadFailed tag.tagId = true →
      (s.bus.store.entryOf tag.tagId).map TagRuntime.valid = some false

/-! ## What a step does -/

section

variable {reg : Registry} {s s' : ReadPath}

theorem scanNext_cases {gState : DispatcherState} {value : TagValue}
    (ha : readStep reg s (.scanNext gState value) = some s') :
    ∃ i, s.scan = some i ∧
      ((reg.tagGetAt i = none ∧ s' = { s with scan := none }) ∨
        ∃ tag, reg.tagGetAt i = some tag ∧
          s' = if tag.access = .writeOnly then { s with scan := some (i + 1) }
            else scanTag { s with scan := some (i + 1) } gState tag value) := by
  simp only [readStep] at ha
  split at ha
  · cases ha
  · next i hscan =>
    refine ⟨i, hscan, ?_⟩
    split at ha
    · next hnone => exact Or.inl ⟨hnone, (Option.some.inj ha).symm⟩
    · next tag htag => exact Or.inr ⟨tag, htag, (Option.some.inj ha).symm⟩

theorem receive_cases (ha : readStep reg s .receive = some s') :
    ∃ request rest, s.request = none ∧ s.gQueue = request :: rest ∧
      s' = { s with gQueue := rest, request := some request } := by
  simp only [readStep] at ha
  split at ha
  · next request rest hrequest hqueue =>
    exact ⟨request, rest, hrequest, hqueue, (Option.some.inj ha).symm⟩
  · cases ha

theorem dispatch_cases {gInitialized : Bool} {ans : BusAnswers} {state : Core.WsState}
    {value : TagValue} (ha : readStep reg s (.dispatch gInitialized ans state value) = some s') :
    ∃ request tag, s.request = some request ∧ request.tag = some tag ∧
      s' = dispatchTag { s with request := none } request tag gInitialized ans state value := by
  simp only [readStep] at ha
  split at ha
  · cases ha
  · next request hrequest =>
    obtain ⟨tag, htag, rfl⟩ := Option.map_eq_some_iff.mp ha
    exact ⟨request, tag, hrequest, htag, rfl⟩

theorem data_cases {i : Nat} {msg : List Byte} {u : Uninit}
    (ha : readStep reg s (.data i msg u) = some s') :
    ∃ p, s.bus.pending[i]? = some p ∧ s' = { s with
      bus := { s.bus with pending := s.bus.pending.eraseIdx i }.post p.operation
        (onModbusData reg s.bus.gModbusCommHealthy msg p.frame.token u) }.answered p false := by
  simp only [readStep] at ha
  split at ha
  · cases ha
  · next p hp =>
    simp only [busStep, hp] at ha
    obtain ⟨bus, hbus, rfl⟩ := Option.map_eq_some_iff.mp ha
    obtain ⟨-, rfl⟩ := of_guarded hbus
    exact ⟨p, hp, rfl⟩

theorem error_cases {i : Nat} {u : Uninit} (ha : readStep reg s (.error i u) = some s') :
    ∃ p, s.bus.pending[i]? = some p ∧ s' = { s with
      bus := { s.bus with pending := s.bus.pending.eraseIdx i }.post p.operation
        (onModbusError s.bus.gModbusCommHealthy p.frame.token u) }.answered p true := by
  simp only [readStep] at ha
  split at ha
  · cases ha
  · next p hp =>
    simp only [busStep, hp] at ha
    exact ⟨p, hp, (Option.some.inj ha).symm⟩

theorem readApply_cases {now : BitVec 32} {taken : Bool}
    (ha : readStep reg s (.apply now taken) = some s') :
    ∃ q rest, s.bus.gAcqResponseQueue = q :: rest ∧
      s' = { s with bus := s.bus.applyHead q rest now taken } := by
  simp only [readStep] at ha
  split at ha
  · obtain ⟨bus, hbus, rfl⟩ := Option.map_eq_some_iff.mp ha
    obtain ⟨q, rest, hqueue, rfl⟩ := apply_cases hbus
    exact ⟨q, rest, hqueue, rfl⟩
  · cases ha

end

/-! ## What is still queued -/

/-- The validity an entry has once the queued responses have been applied to it. -/
def validAfter (queue : List Queued) (tagId : BitVec 32) (valid : Bool) : Bool :=
  queue.foldl (fun valid q =>
    if q.response.tagId = tagId then decide (q.response.status = .ok) else valid) valid

/-- Whether the entry of a tag is valid once the queued responses have been applied. -/
def goesValid (bus : BusSystem) (tagId : BitVec 32) : Bool :=
  (bus.store.entryOf tagId).any fun entry => validAfter bus.gAcqResponseQueue tagId entry.valid

/-- No tag whose latest read failed is valid, or going to be. -/
def Settled (s : ReadPath) : Prop :=
  ∀ tagId, s.lastReadFailed tagId = true → goesValid s.bus tagId = false

/-- A read that fails without a response finds its tag invalid, no write that succeeds
answers for a tag whose latest read failed, and no response is lost to the mutex that
keeps such a tag from being valid. -/
def Safe (reg : Registry) (s : ReadPath) : ReadStep → Prop
  | .scanNext gState _ =>
    ∀ i tag, s.scan = some i → reg.tagGetAt i = some tag → tag.access ≠ .writeOnly →
      ¬ (gState = .running ∧ s.gQueue.length < ProtocolDispatcher.queueLength) →
        goesValid s.bus tag.tagId = false
  | .dispatch gInitialized ans _ _ =>
    ∀ request tag, s.request = some request → request.tag = some tag →
      serviceOf tag request.operation = some .modbusRead →
        ¬ (gInitialized = true ∧ ans = ⟨true, true, true⟩) → goesValid s.bus tag.tagId = false
  | .data i _ _ =>
    ∀ p tag entry, s.bus.pending[i]? = some p → p.operation = .write →
      s.lastReadFailed p.frame.token = true →
        reg.tagFindById (p.frame.token.setWidth 16) = some tag → tag.dataType ≠ .string →
          s.bus.store.entryOf p.frame.token = some entry →
            Acquisition.responseQueueLength ≤ s.bus.gAcqResponseQueue.length
  | .error i _ =>
    ∀ p, s.bus.pending[i]? = some p → p.operation = .read →
      Acquisition.responseQueueLength ≤ s.bus.gAcqResponseQueue.length →
        goesValid s.bus p.frame.token = false
  | .apply _ taken =>
    ∀ q rest, s.bus.gAcqResponseQueue = q :: rest → taken = false →
      s.lastReadFailed q.response.tagId = true →
        goesValid { s.bus with gAcqResponseQueue := rest } q.response.tagId = false
  | _ => True

theorem goesValid_of_queue_nil {bus : BusSystem} (h : bus.gAcqResponseQueue = [])
    {tagId : BitVec 32} {entry : TagRuntime} (hentry : bus.store.entryOf tagId = some entry) :
    goesValid bus tagId = entry.valid := by
  simp only [goesValid, hentry, h]
  rfl

/-- A response that finds room decides what its tag goes to be. -/
theorem goesValid_post (bus : BusSystem) (operation : ProtocolOp) {r : CallbackResult}
    {response : ProtocolResponse} (hresponse : r.response = some response) (tagId : BitVec 32) :
    goesValid (bus.post operation r) tagId =
      if bus.gAcqResponseQueue.length < Acquisition.responseQueueLength ∧
          response.tagId = tagId then
        (bus.store.entryOf tagId).isSome && decide (response.status = .ok)
      else goesValid bus tagId := by
  have hroom : Acquisition.acquisitionPostResponse .running (some bus.gAcqResponseQueue.length)
      (some response) = .ok ↔ bus.gAcqResponseQueue.length < Acquisition.responseQueueLength := by
    simp only [Acquisition.acquisitionPostResponse]
    grind
  simp only [BusSystem.post, hresponse, hroom]
  by_cases hlt : bus.gAcqResponseQueue.length < Acquisition.responseQueueLength
  · rw [if_pos hlt]
    simp only [goesValid, validAfter, List.foldl_append, List.foldl_cons, List.foldl_nil, hlt,
      true_and]
    by_cases htag : response.tagId = tagId
    · simp only [if_pos htag]
      cases bus.store.entryOf tagId <;> rfl
    · simp only [if_neg htag]
  · rw [if_neg hlt, if_neg fun h => hlt h.1]
    rfl

theorem goesValid_post_none {bus : BusSystem} {operation : ProtocolOp} {r : CallbackResult}
    (hresponse : r.response = none) (tagId : BitVec 32) :
    goesValid (bus.post operation r) tagId = goesValid bus tagId := by
  simp only [BusSystem.post, hresponse]
  rfl

/-- Applying the head of the queue leaves a tag on its way. -/
theorem goesValid_applyHead {bus : BusSystem} {q : Queued} {rest : List Queued}
    (hqueue : bus.gAcqResponseQueue = q :: rest) (hinit : bus.store.gInitialized = true)
    (now tagId : BitVec 32) :
    goesValid (bus.applyHead q rest now true) tagId = goesValid bus tagId := by
  have hentry : (bus.applyHead q rest now true).store.entryOf tagId =
      if q.response.tagId = tagId then
        (bus.store.entryOf tagId).map fun entry => entry.update q.response now
      else bus.store.entryOf tagId := by
    rw [BusSystem.applyHead, acquisitionUpdate_eq hinit, if_pos rfl]
    exact RuntimeStore.entryOf_applyResponse bus.store q.response now tagId
  simp only [goesValid, hentry, hqueue]
  by_cases htag : q.response.tagId = tagId
  · simp only [if_pos htag, Option.any_map, TagRuntime.valid_update, validAfter,
      List.foldl_cons]
    rfl
  · simp only [if_neg htag, validAfter, List.foldl_cons]
    rfl

/-- A response that the mutex drops only counts for its own tag. -/
theorem goesValid_drop {bus : BusSystem} {q : Queued} {rest : List Queued}
    (hqueue : bus.gAcqResponseQueue = q :: rest) (hinit : bus.store.gInitialized = true)
    (now tagId : BitVec 32) :
    goesValid (bus.applyHead q rest now false) tagId =
        goesValid { bus with gAcqResponseQueue := rest } tagId ∧
      (q.response.tagId ≠ tagId →
        goesValid { bus with gAcqResponseQueue := rest } tagId = goesValid bus tagId) := by
  have hstore : (bus.applyHead q rest now false).store = bus.store :=
    (acquisitionUpdate_eq hinit q.response now false).trans (if_neg Bool.false_ne_true)
  constructor
  · simp only [goesValid, hstore]
    rfl
  · intro htag
    simp only [goesValid, hqueue, validAfter, List.foldl_cons, if_neg htag]

/-! ## What a step settles -/

theorem postRequest_eq_ok (s : ReadPath) (gState : DispatcherState) (request : ProtocolRequest) :
    (s.postRequest gState request).2 = .ok ↔
      gState = .running ∧ s.gQueue.length < ProtocolDispatcher.queueLength := by
  simp only [ReadPath.postRequest, protocolDispatcherPost]
  grind

/-- Everything a read and its request need for `modbus_read_request` to succeed. -/
theorem modbusReadRequest_eq_ok {gInitialized : Bool} {request : ProtocolRequest}
    {ans : BusAnswers} {tag : TagConfig} (htag : request.tag = some tag)
    (hsource : tag.source = .modbus) :
    (modbusReadRequest gInitialized (some request) ans).1 = .ok ↔
      gInitialized = true ∧ ans = ⟨true, true, true⟩ := by
  obtain ⟨locked, accepted, unlocked⟩ := ans
  simp only [modbusReadRequest, htag, hsource, addRequest]
  cases gInitialized <;> cases locked <;> cases accepted <;> cases unlocked <;> simp

theorem source_of_modbusRead {tag : TagConfig} {operation : ProtocolOp}
    (h : serviceOf tag operation = some .modbusRead) : tag.source = .modbus := by
  unfold serviceOf at h
  split at h <;> first | assumption | cases h

/-- The answer to a request that succeeds is posted for a tag of a type that decodes. -/
theorem response_onModbusData (reg : Registry) (healthy : Bool) (msg : List Byte)
    (token : BitVec 32) (u : Uninit) :
    (∃ tag value, reg.tagFindById (token.setWidth 16) = some tag ∧ tag.dataType ≠ .string ∧
        (onModbusData reg healthy msg token u).response = some ⟨token, .ok, value⟩) ∨
      ((∀ tag, reg.tagFindById (token.setWidth 16) = some tag → tag.dataType = .string) ∧
        (onModbusData reg healthy msg token u).response = none) := by
  cases hresponse : (onModbusData reg healthy msg token u).response with
  | some response =>
    obtain ⟨tag, value, hfind, hvalue, rfl⟩ := onModbusData_eq_some.mp hresponse
    refine Or.inl ⟨tag, value, hfind, fun hstring => ?_, rfl⟩
    rw [decodeValue_eq_none.mpr hstring] at hvalue
    cases hvalue
  | none =>
    refine Or.inr ⟨fun tag hfind => ?_, rfl⟩
    have hnone : decodeValue tag msg u = none := by
      rw [Option.eq_none_iff_forall_ne_some]
      intro value hvalue
      have hposted : (onModbusData reg healthy msg token u).response = some ⟨token, .ok, value⟩ :=
        onModbusData_eq_some.mpr ⟨tag, value, hfind, hvalue, rfl⟩
      rw [hresponse] at hposted
      cases hposted
    exact decodeValue_eq_none.mp hnone

/-- A read that ends leaves the other tags as they were. -/
theorem settled_finish {s : ReadPath} {tagId : BitVec 32} (failed : Bool)
    (hothers : ∀ other, other ≠ tagId → s.lastReadFailed other = true →
      goesValid s.bus other = false) :
    Settled (s.finish tagId failed) ↔ (failed = true → goesValid s.bus tagId = false) := by
  constructor
  · intro h hfailed
    exact h tagId ((Function.update_self ..).trans hfailed)
  · intro h other hother
    by_cases htag : other = tagId
    · subst htag
      exact h ((Function.update_self ..).symm.trans hother)
    · exact hothers other htag ((Function.update_of_ne htag ..).symm.trans hother)

theorem settled_scanTag {s : ReadPath} (hs : Settled s) (gState : DispatcherState)
    (tag : TagConfig) (value : TagValue) :
    Settled (scanTag s gState tag value) ↔
      (¬ (gState = .running ∧ s.gQueue.length < ProtocolDispatcher.queueLength) →
        goesValid s.bus tag.tagId = false) := by
  rw [← postRequest_eq_ok s gState ⟨some tag, .read, value⟩]
  simp only [scanTag]
  split
  · next hok => exact ⟨fun _ hnot => absurd hok hnot, fun _ => hs⟩
  · next hnot =>
    refine (settled_finish true fun other _ => hs other).trans ?_
    exact ⟨fun h _ => h rfl, fun h _ => h hnot⟩

theorem settled_dispatchTag {s : ReadPath} (hs : Settled s) {request : ProtocolRequest}
    {tag : TagConfig} (htag : request.tag = some tag) (gInitialized : Bool) (ans : BusAnswers)
    (state : Core.WsState) (value : TagValue) :
    Settled (dispatchTag s request tag gInitialized ans state value) ↔
      (serviceOf tag request.operation = some .modbusRead →
        ¬ (gInitialized = true ∧ ans = ⟨true, true, true⟩) →
          goesValid s.bus tag.tagId = false) := by
  unfold dispatchTag
  cases hservice : serviceOf tag request.operation with
  | none => exact ⟨(fun _ h => nomatch h), fun _ => hs⟩
  | some service =>
    cases service with
    | modbusRead =>
      rw [← modbusReadRequest_eq_ok htag (source_of_modbusRead hservice)]
      simp only
      split
      · next hok => exact ⟨fun _ _ hnot => absurd hok hnot, fun _ => hs⟩
      · next hnot =>
        refine (settled_finish true fun other _ => hs other).trans ?_
        exact ⟨fun h _ _ => h rfl, fun h _ => h trivial hnot⟩
    | modbusWrite => exact ⟨(fun _ h => nomatch h), fun _ => hs⟩
    | systemRead =>
      refine ⟨(fun _ h => nomatch h), fun _ => ?_⟩
      simp only
      split
      · exact hs
      · next response hresponse =>
        have hid := SystemService.tagId_of_response htag hresponse
        refine (settled_finish false fun other hne hfailed => ?_).mpr nofun
        rw [goesValid_post _ _ rfl, if_neg fun h => hne (h.2.symm.trans hid)]
        exact hs other hfailed

/-- The answer to a read counts for the token of its request only. -/
theorem settled_answer {s : ReadPath} (hs : Settled s) {p : Pending} {i : Nat}
    {r : CallbackResult} (htoken : ∀ response, r.response = some response →
      response.tagId = p.frame.token) (failed : Bool)
    (hread : p.operation = .read) :
    Settled ({ s with
        bus := { s.bus with pending := s.bus.pending.eraseIdx i }.post p.operation r }.answered
          p failed) ↔
      (failed = true →
        goesValid ({ s.bus with pending := s.bus.pending.eraseIdx i }.post p.operation r)
          p.frame.token = false) := by
  rw [ReadPath.answered, if_pos hread]
  refine settled_finish failed fun other hne hother => ?_
  cases hresponse : r.response with
  | none =>
    rw [goesValid_post_none hresponse]
    exact hs other hother
  | some response =>
    have htag := htoken response hresponse
    rw [goesValid_post _ _ hresponse, if_neg fun h => hne (h.2.symm.trans htag)]
    exact hs other hother

theorem settled_data {reg : Registry} {s : ReadPath} (hs : Settled s) {p : Pending} {i : Nat}
    (hp : s.bus.pending[i]? = some p) (msg : List Byte) (u : Uninit) :
    Settled ({ s with
        bus := { s.bus with pending := s.bus.pending.eraseIdx i }.post p.operation
          (onModbusData reg s.bus.gModbusCommHealthy msg p.frame.token u) }.answered p false) ↔
      Safe reg s (.data i msg u) := by
  have hresponse := response_onModbusData reg s.bus.gModbusCommHealthy msg p.frame.token u
  cases hop : p.operation with
  | read =>
    have htoken (response : ProtocolResponse) (h : (onModbusData reg s.bus.gModbusCommHealthy msg
        p.frame.token u).response = some response) : response.tagId = p.frame.token := by
      rcases hresponse with ⟨tag, value, -, -, hsome⟩ | ⟨-, hnone⟩
      · exact (Option.some.inj (hsome.symm.trans h)) ▸ rfl
      · exact absurd (hnone.symm.trans h) nofun
    rw [← hop]
    refine (settled_answer hs htoken false hop).trans ⟨fun _ => ?_, fun _ => nofun⟩
    intro p' tag entry hp' hwrite
    obtain rfl := Option.some.inj (hp.symm.trans hp')
    exact absurd (hop.symm.trans hwrite) nofun
  | write =>
    rw [ReadPath.answered, if_neg (by rw [hop]; nofun)]
    rcases hresponse with ⟨tag, value, hfind, htype, hsome⟩ | ⟨hstring, hnone⟩
    · constructor
      · intro h p' tag' entry hp' _ hfailed _ _ hentry
        obtain rfl := Option.some.inj (hp.symm.trans hp')
        have hvalid := h p.frame.token hfailed
        by_contra hroom
        rw [goesValid_post _ _ hsome, if_pos ⟨Nat.lt_of_not_le hroom, rfl⟩] at hvalid
        simp [hentry] at hvalid
      · intro h tagId hfailed
        rw [goesValid_post _ _ hsome]
        split
        · next hroom =>
          obtain ⟨hlt, rfl⟩ := hroom
          cases hentry : s.bus.store.entryOf p.frame.token with
          | none => rfl
          | some entry =>
            exact absurd (h p tag entry hp hop hfailed hfind htype hentry) (Nat.not_le_of_lt hlt)
        · exact hs tagId hfailed
    · constructor
      · intro _ p' tag entry hp' _ _ hfind htype
        obtain rfl := Option.some.inj (hp.symm.trans hp')
        exact absurd (hstring tag hfind) htype
      · intro _ tagId hfailed
        rw [goesValid_post_none hnone]
        exact hs tagId hfailed

theorem settled_error {reg : Registry} {s : ReadPath} (hs : Settled s) {p : Pending} {i : Nat}
    (hp : s.bus.pending[i]? = some p) (u : Uninit) :
    Settled ({ s with
        bus := { s.bus with pending := s.bus.pending.eraseIdx i }.post p.operation
          (onModbusError s.bus.gModbusCommHealthy p.frame.token u) }.answered p true) ↔
      Safe reg s (.error i u) := by
  have hpost (tagId : BitVec 32) := goesValid_post
    { s.bus with pending := s.bus.pending.eraseIdx i } p.operation
    (r := onModbusError s.bus.gModbusCommHealthy p.frame.token u) rfl tagId
  cases hop : p.operation with
  | read =>
    have htoken (response : ProtocolResponse) (h : (onModbusError s.bus.gModbusCommHealthy
        p.frame.token u).response = some response) : response.tagId = p.frame.token :=
      (Option.some.inj h) ▸ rfl
    rw [← hop]
    refine (settled_answer hs htoken true hop).trans ?_
    rw [hpost]
    constructor
    · intro h p' hp' _ hfull
      obtain rfl := Option.some.inj (hp.symm.trans hp')
      rw [if_neg fun hroom => Nat.not_le_of_lt hroom.1 hfull] at h
      exact h rfl
    · intro h _
      split
      · exact Bool.and_false _
      · next hfull => exact h p hp hop (Nat.le_of_not_lt fun hlt => hfull ⟨hlt, rfl⟩)
  | write =>
    rw [ReadPath.answered, if_neg (by rw [hop]; nofun)]
    rw [hop] at hpost
    constructor
    · intro _ p' hp' hread
      obtain rfl := Option.some.inj (hp.symm.trans hp')
      exact absurd (hop.symm.trans hread) nofun
    · intro _ tagId hfailed
      rw [hpost]
      split
      · exact Bool.and_false _
      · exact hs tagId hfailed

theorem settled_apply {reg : Registry} {s : ReadPath} (hs : Settled s)
    (hinit : s.bus.store.gInitialized = true) {q : Queued} {rest : List Queued}
    (hqueue : s.bus.gAcqResponseQueue = q :: rest) (now : BitVec 32) (taken : Bool) :
    Settled { s with bus := s.bus.applyHead q rest now taken } ↔
      Safe reg s (.apply now taken) := by
  cases taken with
  | true =>
    refine ⟨(fun _ _ _ _ h => nomatch h), fun _ tagId hfailed => ?_⟩
    rw [goesValid_applyHead hqueue hinit]
    exact hs tagId hfailed
  | false =>
    constructor
    · intro h q' rest' hqueue' _ hfailed
      obtain ⟨rfl, rfl⟩ := List.cons.inj (hqueue.symm.trans hqueue')
      exact (goesValid_drop hqueue hinit now q.response.tagId).1.symm.trans (h _ hfailed)
    · intro h tagId hfailed
      obtain ⟨hdrop, hother⟩ := goesValid_drop hqueue hinit now tagId
      rw [hdrop]
      by_cases htag : q.response.tagId = tagId
      · subst htag
        exact h q rest hqueue rfl hfailed
      · rw [hother htag]
        exact hs tagId hfailed

/-- **One step.** A step keeps the failed reads settled exactly when it is safe. -/
theorem settled_iff_safe {reg : Registry} {s s' : ReadPath} {a : ReadStep} (hs : Settled s)
    (hinit : s.bus.store.gInitialized = true) (ha : readStep reg s a = some s') :
    Settled s' ↔ Safe reg s a := by
  cases a with
  | startScan =>
    obtain ⟨-, rfl⟩ := of_guarded ha
    exact iff_of_true hs trivial
  | scanNext gState value =>
    obtain ⟨i, hscan, ⟨hnone, rfl⟩ | ⟨tag, htag, rfl⟩⟩ := scanNext_cases ha
    · refine iff_of_true hs fun i' tag hscan' htag => ?_
      obtain rfl := Option.some.inj (hscan.symm.trans hscan')
      exact absurd (hnone.symm.trans htag) nofun
    · have hsafe : Safe reg s (.scanNext gState value) ↔ tag.access ≠ .writeOnly →
          ¬ (gState = .running ∧ s.gQueue.length < ProtocolDispatcher.queueLength) →
            goesValid s.bus tag.tagId = false := by
        refine ⟨fun h => h i tag hscan htag, fun h i' tag' hscan' htag' => ?_⟩
        obtain rfl := Option.some.inj (hscan.symm.trans hscan')
        obtain rfl := Option.some.inj (htag.symm.trans htag')
        exact h
      rw [hsafe]
      split
      · next haccess => exact iff_of_true hs fun h => absurd haccess h
      · next haccess =>
        exact (settled_scanTag (s := { s with scan := some (i + 1) }) hs gState tag value).trans
          ⟨fun h _ => h, fun h => h haccess⟩
  | postWrite gState request =>
    obtain ⟨-, rfl⟩ := of_guarded ha
    exact iff_of_true hs trivial
  | receive =>
    obtain ⟨request, rest, -, -, rfl⟩ := receive_cases ha
    exact iff_of_true hs trivial
  | dispatch gInitialized ans state value =>
    obtain ⟨request, tag, hrequest, htag, rfl⟩ := dispatch_cases ha
    refine (settled_dispatchTag (s := { s with request := none }) hs htag gInitialized ans state
      value).trans ⟨fun h request' tag' hrequest' htag' => ?_, fun h => h request tag hrequest htag⟩
    obtain rfl := Option.some.inj (hrequest.symm.trans hrequest')
    obtain rfl := Option.some.inj (htag.symm.trans htag')
    exact h
  | data i msg u =>
    obtain ⟨p, hp, rfl⟩ := data_cases ha
    exact settled_data hs hp msg u
  | error i u =>
    obtain ⟨p, hp, rfl⟩ := error_cases ha
    exact settled_error hs hp u
  | apply now taken =>
    obtain ⟨q, rest, hqueue, rfl⟩ := readApply_cases ha
    exact settled_apply hs hinit hqueue now taken

/-! ## Runs -/

theorem bus_answered (s : ReadPath) (p : Pending) (failed : Bool) :
    (s.answered p failed).bus = s.bus := by
  unfold ReadPath.answered
  split <;> rfl

theorem bus_scanTag (s : ReadPath) (gState : DispatcherState) (tag : TagConfig)
    (value : TagValue) : (scanTag s gState tag value).bus = s.bus := by
  simp only [scanTag]
  split <;> rfl

theorem store_dispatchTag (s : ReadPath) (request : ProtocolRequest) (tag : TagConfig)
    (gInitialized : Bool) (ans : BusAnswers) (state : Core.WsState) (value : TagValue) :
    (dispatchTag s request tag gInitialized ans state value).bus.store = s.bus.store := by
  unfold dispatchTag
  split
  · simp only
    split <;> rfl
  · rfl
  · split
    · rfl
    · exact (post_frame ..).1
  · rfl

/-- The store changes only when the acquisition task applies a response. -/
theorem store_readStep {reg : Registry} {s s' : ReadPath} {a : ReadStep}
    (ha : readStep reg s a = some s') :
    s'.bus.store = s.bus.store ∨
      ∃ response now taken, s'.bus.store = s.bus.store.acquisitionUpdate response now taken := by
  cases a with
  | startScan =>
    obtain ⟨-, rfl⟩ := of_guarded ha
    exact Or.inl rfl
  | scanNext gState value =>
    obtain ⟨i, -, ⟨-, rfl⟩ | ⟨tag, -, rfl⟩⟩ := scanNext_cases ha
    · exact Or.inl rfl
    · split
      · exact Or.inl rfl
      · exact Or.inl (congrArg BusSystem.store (bus_scanTag ..))
  | postWrite gState request =>
    obtain ⟨-, rfl⟩ := of_guarded ha
    exact Or.inl rfl
  | receive =>
    obtain ⟨request, rest, -, -, rfl⟩ := receive_cases ha
    exact Or.inl rfl
  | dispatch gInitialized ans state value =>
    obtain ⟨request, tag, -, -, rfl⟩ := dispatch_cases ha
    exact Or.inl (store_dispatchTag ..)
  | data i msg u =>
    obtain ⟨p, -, rfl⟩ := data_cases ha
    rw [bus_answered]
    exact Or.inl (post_frame ..).1
  | error i u =>
    obtain ⟨p, -, rfl⟩ := error_cases ha
    rw [bus_answered]
    exact Or.inl (post_frame ..).1
  | apply now taken =>
    obtain ⟨q, rest, -, rfl⟩ := readApply_cases ha
    exact Or.inr ⟨q.response, now, taken, rfl⟩

structure ReadInv (reg : Registry) (s : ReadPath) : Prop where
  initialized : s.bus.store.gInitialized = true
  configs : s.bus.store.configs = reg.gTags
  settled : Settled s

theorem readInv_boot (reg : Registry) : ReadInv reg (.boot reg) where
  initialized := rfl
  configs := by
    show (reg.gTags.map _).map _ = _
    rw [List.map_map]
    exact List.map_id _
  settled := fun _ h => nomatch h

theorem readInv_readStep {reg : Registry} (s : ReadPath) (a : ReadStep) (s' : ReadPath)
    (hs : ReadInv reg s) (hsafe : Safe reg s a) (ha : readStep reg s a = some s') :
    ReadInv reg s' := by
  have hsettled := (settled_iff_safe hs.settled hs.initialized ha).mpr hsafe
  rcases store_readStep ha with hstore | ⟨response, now, taken, hstore⟩
  · exact ⟨hstore ▸ hs.initialized, hstore ▸ hs.configs, hsettled⟩
  · obtain ⟨hinit, hconfigs⟩ := acquisitionUpdate_frame s.bus.store response now taken
    rw [← hstore] at hinit hconfigs
    exact ⟨hinit.trans hs.initialized, hconfigs.trans hs.configs, hsettled⟩

/-- With no response queued, settled means invalid. -/
theorem failedInvalid_of_readInv {reg : Registry} (s : ReadPath) (hs : ReadInv reg s) :
    FailedInvalid reg s := by
  intro hempty tag hmem _ hfailed
  have hfind := RuntimeStore.config_entryOf hs.initialized tag.tagId
  rw [hs.configs] at hfind
  cases hentry : s.bus.store.entryOf tag.tagId with
  | none =>
    rw [hentry] at hfind
    exact absurd (decide_eq_true rfl) (List.find?_eq_none.mp hfind.symm tag hmem)
  | some entry =>
    exact congrArg some ((goesValid_of_queue_nil hempty hentry).symm.trans
      (hs.settled tag.tagId hfailed))

/-- The runs in which no failed tag is valid or going to be are those of safe steps. -/
theorem always_settled_iff (reg : Registry) (as : List ReadStep) :
    Always (readStep reg) Settled (.boot reg) as ↔
      Throughout (readStep reg) (Safe reg) (.boot reg) as :=
  always_iff_throughout (fun _ hs => hs.settled) readInv_readStep
    (fun _ _ _ hs hnot ha hsettled =>
      hnot ((settled_iff_safe hs.settled hs.initialized ha).mp hsettled))
    (readInv_boot reg) as

/-- **A failed read invalidates its tag** in every run of safe steps. -/
theorem failed_reads_invalid (reg : Registry) (as : List ReadStep)
    (h : Throughout (readStep reg) (Safe reg) (.boot reg) as) :
    Always (readStep reg) (FailedInvalid reg) (.boot reg) as :=
  (always_of_throughout readInv_readStep (readInv_boot reg) h).mono failedInvalid_of_readInv

/-- A table with one readable tag, the status of the coil at address 0. -/
def machTable : Registry := ⟨[relayStatus 7 "MACH-YT" "HDR0030/MACH-YT-100" 0], by decide⟩

/-- One scan of the table, with its request brought to `modbus_read_request`. -/
def scanAndDispatch (ans : BusAnswers) : List ReadStep :=
  [.startScan, .scanNext .running .zero, .scanNext .running .zero, .receive,
    .dispatch true ans .monitoring .zero]

/-- The coil is read and found on. -/
def goodRead : List ReadStep :=
  scanAndDispatch ⟨true, true, true⟩ ++
    [.data 0 [1, 0x01, 1, 1] ⟨.zero, 0, (0, 0), 0⟩, .apply 1000 true]

/-- The slave does not answer the next read. -/
def reportedRead : List ReadStep :=
  scanAndDispatch ⟨true, true, true⟩ ++ [.error 0 ⟨.zero, 0, (0, 0), 0⟩, .apply 2000 true]

theorem reported_read_invalidates :
    Always (readStep machTable) (FailedInvalid machTable) (.boot machTable)
      (goodRead ++ reportedRead) :=
  failed_reads_invalid machTable (goodRead ++ reportedRead)
    (.cons rfl trivial
      (.cons rfl (fun _ _ _ _ _ h => absurd ⟨rfl, by decide⟩ h)
        (.cons rfl (fun _ _ _ _ _ h => absurd ⟨rfl, by decide⟩ h)
          (.cons rfl trivial
            (.cons rfl (fun _ _ _ _ _ h => absurd ⟨rfl, rfl⟩ h)
              (.cons rfl (fun p _ _ hp hw => by cases hp; cases hw)
                (.cons rfl (fun _ _ _ h => nomatch h)
                  (.cons rfl trivial
                    (.cons rfl (fun _ _ _ _ _ h => absurd ⟨rfl, by decide⟩ h)
                      (.cons rfl (fun _ _ _ _ _ h => absurd ⟨rfl, by decide⟩ h)
                        (.cons rfl trivial
                          (.cons rfl (fun _ _ _ _ _ h => absurd ⟨rfl, rfl⟩ h)
                            (.cons rfl (fun _ _ _ hfull => absurd hfull (by decide))
                              (.cons rfl (fun _ _ _ h => nomatch h) trivial))))))))))))))

/-- The next read is refused by the queue of the bus. -/
def refusedRead : List ReadStep := scanAndDispatch ⟨true, false, true⟩

/-- A tag stays valid when its next read is refused. -/
theorem valid_after_refused_read :
    ¬ ∀ (reg : Registry) (as : List ReadStep),
      Always (readStep reg) (FailedInvalid reg) (.boot reg) as := by
  intro hall
  have hrun : (run (readStep machTable) (.boot machTable) (goodRead ++ refusedRead)).map
      (fun s => (s.bus.gAcqResponseQueue, s.lastReadFailed 7,
        (s.bus.store.entryOf 7).map TagRuntime.valid)) = some ([], true, some true) := rfl
  obtain ⟨s, hs, hend⟩ := Option.map_eq_some_iff.mp hrun
  simp only [Prod.mk.injEq] at hend
  obtain ⟨hqueue, hfailed, hvalid⟩ := hend
  have hlast := (hall machTable (goodRead ++ refusedRead)).last hs
  exact absurd (hvalid.symm.trans (hlast hqueue _ List.mem_cons_self nofun hfailed)) nofun

end XIoT.FailedReads

import XIoT.ProtocolDispatcher

/-!
# Requests that are dispatched and not served

`protocol_dispatcher_post` looks at the pointer to the request only, and
`dispatch_request` returns an error only where a service was called and failed.
-/

namespace XIoT.ProtocolDispatcher

/-- The requests a service is for. -/
def Service.serves : Service → TagSource × ProtocolOp
  | modbusRead => (.modbus, .read)
  | modbusWrite => (.modbus, .write)
  | systemRead => (.system, .read)

/-- No NULL tag is dereferenced, and success means that a service for requests of this
source and operation was called and returned `SYS_OK`. -/
def ServedWhenOk (request : ProtocolRequest) : Prop :=
  ∀ answer, ∃ service status, dispatchRequest (some request) answer = .returned service status ∧
    (status = .ok → ∃ tag called, request.tag = some tag ∧ service = some called ∧
      called.serves = (tag.source, request.operation) ∧ answer = .ok)

/-- The request has a tag and there is a service for it. -/
def HasService (request : ProtocolRequest) : Prop :=
  ∃ tag, request.tag = some tag ∧ tag.source ≠ .can ∧
    (tag.source = .system → request.operation = .read)

theorem serves_of_serviceOf {tag : TagConfig} {operation : ProtocolOp} {service : Service}
    (h : serviceOf tag operation = some service) : service.serves = (tag.source, operation) := by
  unfold serviceOf at h
  split at h
  · next hsource =>
    obtain rfl := Option.some.inj h
    rw [hsource]
    rfl
  · next hsource =>
    obtain rfl := Option.some.inj h
    rw [hsource]
    rfl
  · next hsource =>
    obtain rfl := Option.some.inj h
    rw [hsource]
    rfl
  · cases h
  · cases h

theorem serviceOf_eq_none {tag : TagConfig} {operation : ProtocolOp} :
    serviceOf tag operation = none ↔
      tag.source = .can ∨ (tag.source = .system ∧ operation = .write) := by
  unfold serviceOf
  cases tag.source <;> cases operation <;> simp

theorem servedWhenOk_iff (request : ProtocolRequest) : ServedWhenOk request ↔ HasService request := by
  obtain ⟨tag, operation, value⟩ := request
  cases tag with
  | none =>
    refine iff_of_false (fun h => ?_) fun ⟨tag, htag, _⟩ => nomatch htag
    obtain ⟨service, status, hreturned, -⟩ := h .ok
    cases hreturned
  | some tag =>
    cases hservice : serviceOf tag operation with
    | none =>
      refine iff_of_false (fun h => ?_) fun ⟨tag', htag, hcan, hsystem⟩ => ?_
      · obtain ⟨service, status, hreturned, hserved⟩ := h .ok
        simp only [dispatchRequest, hservice] at hreturned
        obtain ⟨rfl, rfl⟩ := Dispatch.returned.inj hreturned
        obtain ⟨-, called, -, hcalled, -⟩ := hserved rfl
        cases hcalled
      · obtain rfl := Option.some.inj htag
        rcases serviceOf_eq_none.mp hservice with hsource | ⟨hsource, hwrite⟩
        · exact hcan hsource
        · exact absurd ((hsystem hsource).symm.trans hwrite) (by decide)
    | some service =>
      refine iff_of_true (fun answer => ?_) ⟨tag, rfl, fun hcan => ?_, fun hsystem => ?_⟩
      · refine ⟨some service, if answer = .ok then .ok else .fail, ?_, fun hok => ?_⟩
        · simp only [dispatchRequest, hservice]
        · have hanswer : answer = .ok := by
            by_contra hfail
            rw [if_neg hfail] at hok
            cases hok
          exact ⟨tag, service, rfl, rfl, serves_of_serviceOf hservice, hanswer⟩
      · rw [serviceOf_eq_none.mpr (Or.inl hcan)] at hservice
        cases hservice
      · cases operation with
        | read => rfl
        | write =>
          rw [serviceOf_eq_none.mpr (Or.inr ⟨hsystem, rfl⟩)] at hservice
          cases hservice

/-- **Dispatch succeeds only when the request was served, exactly** when a request that was
accepted has a tag whose source is not CAN and, for a system tag, is a read. -/
theorem dispatch_served_iff (s : State) (request : Option ProtocolRequest) (room : Bool)
    (haccepted : (protocolDispatcherPost s request room).2 = .ok) :
    ∃ req, request = some req ∧
      (protocolDispatcherPost s request room).1.gQueue = s.gQueue ++ [req] ∧
      (ServedWhenOk req ↔ HasService req) := by
  unfold protocolDispatcherPost at haccepted ⊢
  split at haccepted
  · cases haccepted
  · next hrunning =>
    rw [if_neg hrunning]
    cases request with
    | none => cases haccepted
    | some req =>
      cases room with
      | false => cases haccepted
      | true => exact ⟨req, rfl, rfl, servedWhenOk_iff req⟩

/-- A read of a coil. -/
theorem read_is_served :
    ∃ req, some ⟨some (relayStatus 10 "MACH-YS" "HDR0030/MACH-YS" 0), .read, TagValue.zero⟩ = some req ∧
      (protocolDispatcherPost ⟨.running, []⟩
        (some ⟨some (relayStatus 10 "MACH-YS" "HDR0030/MACH-YS" 0), .read, TagValue.zero⟩)
        true).1.gQueue = [] ++ [req] ∧
      (ServedWhenOk req ↔ HasService req) :=
  dispatch_served_iff ⟨.running, []⟩
    (some ⟨some (relayStatus 10 "MACH-YS" "HDR0030/MACH-YS" 0), .read, TagValue.zero⟩) true rfl

/-- A request without a tag is accepted. -/
theorem null_tag_accepted :
    ¬ ∀ (s : State) (req : ProtocolRequest) (room : Bool),
      (protocolDispatcherPost s (some req) room).2 = .ok → ServedWhenOk req := by
  intro hall
  obtain ⟨service, status, hreturned, -⟩ :=
    hall ⟨.running, []⟩ ⟨none, .read, TagValue.zero⟩ true rfl .ok
  cases hreturned

end XIoT.ProtocolDispatcher

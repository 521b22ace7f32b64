import XIoT.Core

/-!
# The system service

`system_service.cpp`: the reads of system tags, which the firmware answers itself.
-/

namespace XIoT

/-- The first `n` bytes of `strv` after `strncpy(strv, src, n)`: what is left of them
behind the text is filled with zeros. The bytes from `n` on stay. -/
def TagValue.strncpy (v : TagValue) (src : String) (n : Nat) : TagValue :=
  let byte (i : Nat) : BitVec 8 :=
    if i < n then ((src.toList[i]?).map fun c => BitVec.ofNat 8 c.toNat).getD 0 else v.strv.getD i 0
  ⟨byte 3 ++ byte 2 ++ byte 1 ++ byte 0, Vector.ofFn fun i => byte (i + 4)⟩

namespace SystemService

open XIoT.Core (WsState)

/-- The values of `ws_state_t`. -/
def stateNumber : WsState → BitVec 16
  | .idle => 400
  | .monitoring => 401
  | .regenRequired => 402
  | .regenRunning => 403
  | .fault => 404

/-- The text of a state; there is none for `WS_STATE_REGEN_REQUIRED`. -/
def stateText : WsState → String
  | .idle => "IDLE"
  | .regenRunning => "REGEN_RUNNING"
  | .monitoring => "MONITORING"
  | .fault => "FAULT"
  | .regenRequired => "UNKNOWN"

/-- The status and the value of a response, `value` being what the stack held. -/
def stateValue (tag : TagConfig) (state : WsState) (value : TagValue) : SysStatus × TagValue :=
  if tag.name = some "core_state" then
    match tag.dataType with
    | .uint16 => (.ok, value.setU16v (stateNumber state))
    | .string => (.ok, value.strncpy (stateText state) 63)
    | _ => (.invalidParam, value)
  else (.notFound, value)

/-- `system_service_read_request`: the response that is posted, or the error of a
request that gets none. It returns what `acquisition_post_response` returns. -/
def systemServiceReadRequest (request : Option ProtocolRequest) (state : WsState)
    (value : TagValue) : Except SysStatus ProtocolResponse :=
  match request with
  | none => .error .invalidParam
  | some request =>
    match request.tag with
    | none => .error .invalidParam
    | some tag =>
      if tag.source ≠ .system then .error .invalidParam
      else
        let answer := stateValue tag state value
        .ok ⟨tag.tagId, answer.1, answer.2⟩

/-- A response goes to the tag of its request. -/
theorem tagId_of_response {request : ProtocolRequest} {state : WsState} {value : TagValue}
    {tag : TagConfig} {response : ProtocolResponse} (htag : request.tag = some tag)
    (h : systemServiceReadRequest (some request) state value = .ok response) :
    response.tagId = tag.tagId := by
  simp only [systemServiceReadRequest, htag] at h
  split at h
  · cases h
  · cases h
    rfl

end SystemService

end XIoT

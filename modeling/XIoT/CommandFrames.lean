import XIoT.CommandOrder
import XIoT.WriteFrames
import XIoT.RegisterRoundTrip
import XIoT.Lib.Custody

/-!
# The frames of commands

Whatever comes from the broker can write to the outputs only: a request that reaches the
Modbus service on behalf of a command is that of an accepted message for a tag which is
subscribed and write only, and its frame goes to the address of this tag with the value of
this message. The requests of all tags together keep the order of the messages.
-/

namespace XIoT.Subscriber

open Lib.Runs Lib.Custody
open Modbus (Frame BusAnswers modbusWriteRequest writtenOf encodeValue)

/-- The request that the message is turned into, for a Modbus tag that commands may write. -/
structure Commands (reg : Registry) (json : ArduinoJson) (msg : MqttMsg)
    (request : ProtocolRequest) (tag : TagConfig) : Prop where
  found : reg.tagFindByTopic (some msg.topic) = some tag
  subscribed : tag.topicType = .subscribe
  writable : tag.access = .writeOnly
  source : tag.source = .modbus
  request_eq : request.tag = some tag ∧ request.operation = .write
  value : ∃ doc value, json.deserializeJson msg.payload = some doc ∧
    doc.member "value" = some value ∧ requestValue json tag.dataType value = some request.value

/-- The frame goes to the address of the tag with the registers of the value. -/
structure WritesTo (tag : TagConfig) (value : TagValue) (frame : Frame) : Prop where
  token : frame.token = tag.tagId
  slaveId : frame.slaveId = tag.modbus.slaveId
  functionCode : frame.functionCode = tag.modbus.functionCode
  address : frame.address = tag.modbus.address
  written : ∃ regs, encodeValue tag value = some regs ∧
    frame.written = writtenOf tag.modbus regs value.bv

/-- The message is what the request and every frame that may come of it are from. -/
def CommandedBy (reg : Registry) (json : ArduinoJson) (msg : MqttMsg) (request : ProtocolRequest) :
    Prop :=
  ∃ tag, Commands reg json msg request tag ∧
    ∀ (gInitialized : Bool) (ans : BusAnswers) (frame : Frame),
      (modbusWriteRequest gInitialized (some request) ans).2 = some frame →
        WritesTo tag request.value frame

/-- The requests handed to the Modbus service on behalf of commands are those of some of
the accepted messages, one of each, in the order of the messages. -/
def BusFollowsBroker (reg : Registry) (json : ArduinoJson) (s : CommandPath) : Prop :=
  ∃ msgs : List MqttMsg, msgs.Sublist s.accepted ∧
    List.Forall₂ (CommandedBy reg json) msgs s.handed

/-! ## The frame of a request -/

theorem writesTo_of_frame {gInitialized : Bool} {request : ProtocolRequest} {tag : TagConfig}
    {ans : BusAnswers} {frame : Frame} (htag : request.tag = some tag)
    (h : (modbusWriteRequest gInitialized (some request) ans).2 = some frame) :
    WritesTo tag request.value frame := by
  simp only [modbusWriteRequest, htag] at h
  split at h
  · cases h
  split at h
  · cases h
  split at h
  · cases h
  split at h
  · cases h
  · next regs hregs =>
    by_cases h6 : tag.modbus.functionCode = 0x06
    · rw [if_pos h6] at h
      obtain rfl := Modbus.addRequest_frame h
      refine ⟨rfl, rfl, h6.symm, rfl, regs, hregs, ?_⟩
      rw [writtenOf, if_pos h6]
      rfl
    by_cases h10 : tag.modbus.functionCode = 0x10
    · rw [if_neg h6, if_pos h10] at h
      obtain rfl := Modbus.addRequest_frame h
      refine ⟨rfl, rfl, h10.symm, rfl, regs, hregs, ?_⟩
      rw [writtenOf, if_neg h6, if_pos h10]
      rfl
    by_cases h5 : tag.modbus.functionCode = 0x05
    · rw [if_neg h6, if_neg h10, if_pos h5] at h
      obtain rfl := Modbus.addRequest_frame h
      refine ⟨rfl, rfl, h5.symm, rfl, regs, hregs, ?_⟩
      rw [writtenOf, if_neg h6, if_neg h10, if_pos h5]
      rfl
    · rw [if_neg h6, if_neg h10, if_neg h5] at h
      cases h

/-- A request that was decoded from a message and that the dispatcher gives to the Modbus
service. -/
theorem commandedBy_of_decode {reg : Registry} {json : ArduinoJson} {msg : MqttMsg}
    {request : ProtocolRequest} {answer : SysStatus} (hdecode : decode reg json msg = .ok request)
    (hservice : (ProtocolDispatcher.dispatchRequest (some request) answer).service =
      some .modbusWrite) : CommandedBy reg json msg request := by
  obtain ⟨tag, hlook, hparse⟩ := decode_eq_ok.mp hdecode
  obtain ⟨hfound, htype, haccess⟩ := lookUp_eq_ok.mp hlook
  obtain ⟨doc, value, v, hdoc, hmember, hvalue, rfl⟩ := parse_eq_ok.mp hparse
  have hsource : tag.source = .modbus := by
    simp only [ProtocolDispatcher.dispatchRequest, ProtocolDispatcher.serviceOf] at hservice
    cases htag : tag.source <;> rw [htag] at hservice <;> first | rfl | cases hservice
  exact ⟨tag, ⟨hfound, htype, haccess, hsource, ⟨rfl, rfl⟩, doc, value, hdoc, hmember, hvalue⟩,
    fun _ _ _ hframe => writesTo_of_frame rfl hframe⟩

/-! ## Custody of the commands -/

/-- The request of a message, none when the subscriber drops it. -/
def requestOf (reg : Registry) (json : ArduinoJson) (msg : MqttMsg) : Option ProtocolRequest :=
  (decode reg json msg).toOption

def Posted.commanded (p : Posted) : Option ProtocolRequest :=
  if p.command = true then some p.request else none

namespace Flow

variable {reg : Registry} {json : ArduinoJson} {f f' : Flow}

/-- Behind the Modbus service: at the dispatcher, in the hand of the task, in its queue. -/
def behind (reg : Registry) (json : ArduinoJson) (f : Flow) : List ProtocolRequest :=
  (f.dispatching.bind Posted.commanded).toList ++
    (f.dispatchQueue.filterMap Posted.commanded ++
      ((f.hand.bind Prod.snd).toList ++ f.queue.filterMap fun m => requestOf reg json m.msg))

def ledger (reg : Registry) (json : ArduinoJson) (f : Flow) (lost : List ProtocolRequest) :
    Ledger ProtocolRequest :=
  ⟨f.accepted.filterMap (requestOf reg json), f.handed ++ f.behind reg json, lost⟩

/-- Nothing happens to the commands. -/
theorem ledger_same (hsame : f'.handed ++ f'.behind reg json = f.handed ++ f.behind reg json)
    (haccepted : f'.accepted = f.accepted) (lost : List ProtocolRequest) :
    ∃ lost', (f.ledger reg json lost).Step (f'.ledger reg json lost') := by
  refine ⟨lost, ?_⟩
  simp only [ledger, hsame, haccepted]
  exact .refl _

/-- The task lets go of what it has in hand. -/
theorem ledger_hand (lost : List ProtocolRequest) {hand : Option (Numbered × Option ProtocolRequest)}
    (hnone : hand.bind Prod.snd = none) :
    ∃ lost', (f.ledger reg json lost).Step ({ f with hand := hand }.ledger reg json lost') := by
  cases hheld : f.hand.bind Prod.snd with
  | none =>
    refine ledger_same ?_ (by rfl) lost
    simp only [behind, hheld, hnone]
  | some request =>
    refine ⟨lost ++ [request], ?_⟩
    have htransit : f.handed ++ f.behind reg json =
        f.handed ++ ((f.dispatching.bind Posted.commanded).toList ++
          f.dispatchQueue.filterMap Posted.commanded) ++
          request :: f.queue.filterMap fun m => requestOf reg json m.msg := by
      simp only [behind, hheld, Option.toList_some, List.append_assoc, List.singleton_append]
    have hstep := Ledger.Step.lose (c := f.ledger reg json lost) _ request _ _ htransit (.refl _)
    simpa only [ledger, behind, hnone, Option.toList_none, List.nil_append, List.append_assoc]
      using hstep

/-- The dispatcher is done with what it has received, which goes to no Modbus service. -/
theorem ledger_dispatch (lost : List ProtocolRequest) :
    ∃ lost', (f.ledger reg json lost).Step
      ({ f with dispatching := none }.ledger reg json lost') := by
  cases hheld : f.dispatching.bind Posted.commanded with
  | none =>
    refine ledger_same ?_ (by rfl) lost
    simp only [behind, hheld]
    rfl
  | some request =>
    refine ⟨lost ++ [request], ?_⟩
    have htransit : f.handed ++ f.behind reg json =
        f.handed ++ request :: (f.dispatchQueue.filterMap Posted.commanded ++
          ((f.hand.bind Prod.snd).toList ++ f.queue.filterMap fun m => requestOf reg json m.msg)) := by
      simp only [behind, hheld, Option.toList_some, List.singleton_append]
    exact .lose (c := f.ledger reg json lost) _ request _ _ htransit (.refl _)

/-- **The flow keeps its commands.** -/
theorem ledger_flowStep (h : FlowStep reg json f f') (lost : List ProtocolRequest) :
    ∃ lost', (f.ledger reg json lost).Step (f'.ledger reg json lost') := by
  cases h with
  | quiet => exact ⟨lost, .refl _⟩
  | accept msg =>
    refine ⟨lost, ?_⟩
    simp only [ledger, behind, filterMap_concat_toList, ← List.append_assoc]
    cases requestOf reg json msg with
    | none => simpa using Ledger.Step.refl _
    | some request => exact .enter request
  | receive m rest hqueue hhand =>
    refine ledger_same ?_ (by rfl) lost
    simp only [behind, hqueue, hhand, filterMap_cons_toList]
    rfl
  | post m request hhand =>
    refine ledger_same ?_ (by rfl) lost
    simp only [behind, hhand, filterMap_concat_toList, List.append_assoc]
    rfl
  | refuse m request hhand => exact ledger_hand lost rfl
  | reject m r hhand => exact ledger_hand (f := f) lost rfl
  | otherPost request =>
    refine ledger_same ?_ (by rfl) lost
    simp only [behind, filterMap_concat_toList, Posted.commanded, Bool.false_eq_true, if_false,
      Option.toList_none, List.append_nil]
  | take p rest hqueue hidle =>
    refine ledger_same ?_ (by rfl) lost
    simp only [behind, hqueue, hidle, filterMap_cons_toList, List.append_assoc]
    rfl
  | dispatch p hp => exact ledger_dispatch lost
  | hand p hp hcommand =>
    refine ledger_same ?_ (by rfl) lost
    simp only [behind, hp, Option.bind_some, Posted.commanded, hcommand, if_true,
      Option.toList_some, List.append_assoc]
    rfl

end Flow

/-! ## Runs -/

/-- The dispatcher has given every request handed over to the Modbus service. -/
def HandedToModbus (s : CommandPath) : Prop :=
  ∀ request ∈ s.handed, ∃ answer,
    (ProtocolDispatcher.dispatchRequest (some request) answer).service = some .modbusWrite

structure CommandPath.BusInv (reg : Registry) (json : ArduinoJson) (s : CommandPath) : Prop where
  alone : s.Alone
  kept : ∃ lost, ((s.flow reg json).ledger reg json lost).Kept
  handed : HandedToModbus s

section

variable {reg : Registry} {json : ArduinoJson} {s s' : CommandPath}

theorem busInv_boot (reg : Registry) (json : ArduinoJson) (dispatcher : DispatcherState) :
    (CommandPath.boot dispatcher).BusInv reg json where
  alone := CommandPath.alone_boot dispatcher
  kept := ⟨[], .empty⟩
  handed request h := by cases h

/-- Only the dispatcher hands requests over. -/
theorem handed_commandStep {a : CommandStep} (ha : commandStep reg json s a = some s') :
    s'.handed = s.handed ∨ ∃ p answer, s'.handed = s.handed ++ [p] ∧
      (ProtocolDispatcher.dispatchRequest (some p) answer).service = some .modbusWrite := by
  have hpost : ∀ request command, (s.dispatcherPost request command).1.handed = s.handed := by
    intro request command
    rcases s.dispatcherPost_cases request command with heq | ⟨_, -, heq⟩ <;> rw [heq]
  cases a with
  | post msg =>
    obtain rfl := Option.some.inj ha
    unfold CommandPath.postTest
    split
    · exact Or.inl rfl
    · split <;> exact Or.inl rfl
  | send i =>
    simp only [commandStep, CommandPath.postSend] at ha
    split at ha
    · cases ha
    · split at ha <;> exact Or.inl (Option.some.inj ha ▸ rfl)
  | start =>
    obtain ⟨-, rfl⟩ := of_guarded ha
    unfold CommandPath.startTest
    split <;> exact Or.inl rfl
  | stop =>
    obtain ⟨-, rfl⟩ := of_guarded ha
    unfold CommandPath.stopTest
    split <;> exact Or.inl rfl
  | call created =>
    simp only [commandStep, CommandPath.callStep] at ha
    split at ha
    · cases ha
    · split at ha <;> exact Or.inl (Option.some.inj ha ▸ rfl)
    · exact Or.inl (Option.some.inj ha ▸ rfl)
    · split at ha <;> exact Or.inl (Option.some.inj ha ▸ rfl)
    · exact Or.inl (Option.some.inj ha ▸ rfl)
  | task h =>
    simp only [commandStep, CommandPath.taskStep] at ha
    split at ha
    · cases ha
    · exact Or.inl (Option.some.inj ha ▸ rfl)
    · split at ha
      · cases ha
      · exact Or.inl (Option.some.inj ha ▸ rfl)
    · split at ha <;> exact Or.inl (Option.some.inj ha ▸ rfl)
    · split at ha <;> exact Or.inl (Option.some.inj ha ▸ rfl)
    · next m request _ =>
      have hkept := hpost request true
      split at ha <;> next heq => rw [heq] at hkept; exact Or.inl (Option.some.inj ha ▸ hkept)
    · exact Or.inl (Option.some.inj ha ▸ rfl)
  | otherPost request =>
    obtain rfl := Option.some.inj ha
    exact Or.inl (hpost request false)
  | receive =>
    simp only [commandStep, CommandPath.dispatchReceive] at ha
    split at ha
    · exact Or.inl (Option.some.inj ha ▸ rfl)
    · cases ha
  | dispatch answer =>
    simp only [commandStep, CommandPath.dispatchRequest] at ha
    split at ha
    · cases ha
    · next p _ =>
      obtain rfl := Option.some.inj ha
      by_cases hmodbus : (ProtocolDispatcher.dispatchRequest (some p.request) answer).service =
          some .modbusWrite ∧ p.command = true
      · exact Or.inr ⟨p.request, answer, if_pos hmodbus, hmodbus.1⟩
      · exact Or.inl (if_neg hmodbus)

theorem busInv_commandStep {a : CommandStep} (hs : s.BusInv reg json)
    (ha : commandStep reg json s a = some s') : s'.BusInv reg json := by
  obtain ⟨lost, hkept⟩ := hs.kept
  obtain ⟨halone, hrefines⟩ := CommandPath.refines_commandStep hs.alone ha
  refine ⟨halone, ?_, ?_⟩
  · rcases hrefines with ⟨-, hstep⟩ | ⟨-, hdrop⟩
    · obtain ⟨lost', hledger⟩ := Flow.ledger_flowStep hstep lost
      exact ⟨lost', hkept.step hledger⟩
    · have hlose : ∃ lost', ((s.flow reg json).ledger reg json lost).Step
          (({ s.flow reg json with hand := none } : Flow).ledger reg json lost') :=
        Flow.ledger_hand lost rfl
      obtain ⟨lost', hledger⟩ := hlose
      rw [hdrop]
      exact ⟨lost', hkept.step hledger⟩
  · intro request hrequest
    rcases handed_commandStep ha with hsame | ⟨p, answer, hmore, hservice⟩
    · exact hs.handed request (hsame ▸ hrequest)
    · rw [hmore] at hrequest
      rcases List.mem_append.mp hrequest with hold | hnew
      · exact hs.handed request hold
      · obtain rfl := List.mem_singleton.mp hnew
        exact ⟨answer, hservice⟩

/-- The messages that have become requests, with the requests. -/
theorem forall₂_requestOf {msgs : List MqttMsg}
    (h : ∀ request ∈ msgs.filterMap (requestOf reg json), ∃ answer,
      (ProtocolDispatcher.dispatchRequest (some request) answer).service = some .modbusWrite) :
    ∃ taken : List MqttMsg, taken.Sublist msgs ∧
      List.Forall₂ (CommandedBy reg json) taken (msgs.filterMap (requestOf reg json)) := by
  induction msgs with
  | nil => exact ⟨[], .slnil, .nil⟩
  | cons msg msgs ih =>
    rw [Flow.filterMap_cons_toList] at h ⊢
    obtain ⟨taken, hsub, hall⟩ := ih fun request hmem => h request (List.mem_append_right _ hmem)
    cases hdecode : decode reg json msg with
    | error r =>
      have hnone : requestOf reg json msg = none := by rw [requestOf, hdecode]; rfl
      rw [hnone]
      exact ⟨taken, hsub.cons msg, hall⟩
    | ok request =>
      have hsome : requestOf reg json msg = some request := by rw [requestOf, hdecode]; rfl
      rw [hsome] at h ⊢
      obtain ⟨answer, hservice⟩ := h request (List.mem_append_left _ (List.mem_singleton_self _))
      exact ⟨msg :: taken, hsub.cons_cons msg, .cons (commandedBy_of_decode hdecode hservice) hall⟩

theorem CommandPath.BusInv.busFollowsBroker (hs : s.BusInv reg json) :
    BusFollowsBroker reg json s := by
  obtain ⟨lost, hkept⟩ := hs.kept
  have hhanded : s.handed.Sublist (s.accepted.filterMap (requestOf reg json)) :=
    (List.sublist_append_left _ _).trans hkept.inOrder
  obtain ⟨msgs, hmsgs, heq⟩ := List.sublist_filterMap_iff.mp hhanded
  have hservice := hs.handed
  rw [HandedToModbus, heq] at hservice
  obtain ⟨taken, htaken, hall⟩ := forall₂_requestOf hservice
  rw [BusFollowsBroker, heq]
  exact ⟨taken, htaken.trans hmsgs, hall⟩

end

/-- **The broker writes to the outputs only.** In every run each request that reaches the
Modbus service on behalf of a command is that of an accepted message, a different one for
each and in their order, for a tag that is subscribed, write only and on the bus; whatever
frame comes of it goes to the slave, function and address of this tag with the value of
this message. -/
theorem bus_follows_broker (reg : Registry) (json : ArduinoJson) (dispatcher : DispatcherState)
    (as : List CommandStep) :
    Always (commandStep reg json) (BusFollowsBroker reg json) (.boot dispatcher) as :=
  (always_of_invariant (fun _ _ _ hs ha => busInv_commandStep hs ha)
    (busInv_boot reg json dispatcher) as).mono fun _ hs => hs.busFollowsBroker

end XIoT.Subscriber

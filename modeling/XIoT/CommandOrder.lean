import XIoT.CommandFlow

/-!
# Commands keep their order

For each tag the values still on their way, from those handed to the Modbus service
back to those still in the subscriber's queue, form a subsequence of the values of the
accepted messages. Every step moves a value within this stream, adds one at its end or
takes one out.
-/

namespace XIoT.Subscriber

open Lib.Runs

/-- The value a request writes to the tag. -/
def commandOn (tag : TagConfig) (request : ProtocolRequest) : Option TagValue :=
  if request.tag = some tag then some request.value else none

/-- The value of a message for the tag, none when the subscriber drops it or writes it elsewhere. -/
def decodedOn (reg : Registry) (json : ArduinoJson) (tag : TagConfig) (msg : MqttMsg) :
    Option TagValue :=
  (decode reg json msg).toOption.bind (commandOn tag)

def Posted.commandOn (tag : TagConfig) (p : Posted) : Option TagValue :=
  if p.command = true then Subscriber.commandOn tag p.request else none

namespace Flow

variable (reg : Registry) (json : ArduinoJson) (tag : TagConfig)

/-- The values for the tag at the dispatcher, at the subscriber's task and in its queue. -/
def atDispatcher (f : Flow) : List TagValue :=
  (f.dispatching.bind (Posted.commandOn tag)).toList ++
    f.dispatchQueue.filterMap (Posted.commandOn tag)

def inHand (f : Flow) : List TagValue :=
  ((f.hand.bind Prod.snd).bind (commandOn tag)).toList

def inQueue (f : Flow) : List TagValue := f.queue.filterMap fun m => decodedOn reg json tag m.msg

def stream (f : Flow) : List TagValue :=
  f.handed.filterMap (commandOn tag) ++
    (f.atDispatcher tag ++ (f.inHand tag ++ f.inQueue reg json tag))

def decoded (f : Flow) : List TagValue := f.accepted.filterMap (decodedOn reg json tag)

/-- What is on its way is a subsequence of what was accepted. -/
def InOrder (f : Flow) : Prop := (f.stream reg json tag).Sublist (f.decoded reg json tag)

variable {reg json tag}

theorem filterMap_cons_toList {α β : Type*} (g : α → Option β) (a : α) (l : List α) :
    (a :: l).filterMap g = (g a).toList ++ l.filterMap g := by
  rw [List.filterMap_cons]
  cases g a <;> rfl

theorem filterMap_concat_toList {α β : Type*} (g : α → Option β) (l : List α) (a : α) :
    (l ++ [a]).filterMap g = l.filterMap g ++ (g a).toList := by
  rw [List.filterMap_append, filterMap_cons_toList, List.filterMap_nil, List.append_nil]

theorem InOrder.congr {f f' : Flow} (hf : f.InOrder reg json tag)
    (hstream : f'.stream reg json tag = f.stream reg json tag) (haccepted : f'.accepted = f.accepted) :
    f'.InOrder reg json tag := by
  unfold InOrder decoded
  rw [hstream, haccepted]
  exact hf

/-- Dropping what is in hand takes it out of the stream. -/
theorem stream_drop (f : Flow) (hand : Option (Numbered × Option ProtocolRequest))
    (hnone : (hand.bind Prod.snd).bind (commandOn tag) = none) :
    ({ f with hand := hand }.stream reg json tag).Sublist (f.stream reg json tag) := by
  have hempty : ({ f with hand := hand } : Flow).inHand tag = [] := by rw [inHand, hnone]; rfl
  unfold stream
  rw [hempty]
  refine List.Sublist.append (List.Sublist.refl _) (List.Sublist.append (List.Sublist.refl _) ?_)
  exact List.Sublist.append (List.nil_sublist _) (List.Sublist.refl _)

theorem inOrder_drop {f : Flow} (hf : f.InOrder reg json tag)
    (hand : Option (Numbered × Option ProtocolRequest))
    (hnone : (hand.bind Prod.snd).bind (commandOn tag) = none) :
    ({ f with hand := hand } : Flow).InOrder reg json tag :=
  (stream_drop f hand hnone).trans hf

/-- One step of the flow keeps the order. -/
theorem inOrder_flowStep {f f' : Flow} (hf : f.InOrder reg json tag)
    (hstep : FlowStep reg json f f') : f'.InOrder reg json tag := by
  cases hstep with
  | quiet => exact hf
  | accept msg =>
    have hstream : ({ f with
        queue := f.queue ++ [⟨f.accepted.length, msg⟩]
        accepted := f.accepted ++ [msg] } : Flow).stream reg json tag =
          f.stream reg json tag ++ (decodedOn reg json tag msg).toList := by
      simp only [stream, atDispatcher, inHand, inQueue, filterMap_concat_toList, List.append_assoc]
    unfold InOrder decoded
    rw [hstream, filterMap_concat_toList]
    exact List.Sublist.append hf (List.Sublist.refl _)
  | receive m rest hqueue hhand =>
    have hstream : ({ f with
        queue := rest
        hand := some (m, (decode reg json m.msg).toOption) } : Flow).stream reg json tag =
          f.stream reg json tag := by
      simp only [stream, atDispatcher, inHand, inQueue, hqueue, hhand, filterMap_cons_toList]
      rfl
    exact hf.congr hstream rfl
  | post m request hhand =>
    have hstream : ({ f with
        hand := none
        dispatchQueue := f.dispatchQueue ++ [⟨request, true⟩]
        posted := f.posted ++ [m.number] } : Flow).stream reg json tag =
          f.stream reg json tag := by
      simp only [stream, atDispatcher, inHand, inQueue, hhand, filterMap_concat_toList,
        List.append_assoc]
      rfl
    exact hf.congr hstream rfl
  | refuse m request hhand => exact inOrder_drop hf (some (m, none)) rfl
  | reject m r hhand => exact inOrder_drop hf none rfl
  | otherPost request =>
    have hstream : ({ f with
        dispatchQueue := f.dispatchQueue ++ [⟨request, false⟩] } : Flow).stream reg json tag =
          f.stream reg json tag := by
      simp only [stream, atDispatcher, inHand, inQueue, filterMap_concat_toList,
        Posted.commandOn, Bool.false_eq_true, if_false, Option.toList_none, List.append_nil]
    exact hf.congr hstream rfl
  | take p rest hqueue hidle =>
    have hstream : ({ f with dispatchQueue := rest, dispatching := some p } : Flow).stream
        reg json tag = f.stream reg json tag := by
      simp only [stream, atDispatcher, inHand, inQueue, hqueue, hidle, filterMap_cons_toList]
      rfl
    exact hf.congr hstream rfl
  | dispatch p hp =>
    refine List.Sublist.trans ?_ hf
    refine List.Sublist.append (List.Sublist.refl _) (List.Sublist.append ?_ (List.Sublist.refl _))
    exact List.Sublist.append (List.nil_sublist _) (List.Sublist.refl _)
  | hand p hp hcommand =>
    have hstream : ({ f with dispatching := none, handed := f.handed ++ [p.request] } : Flow).stream
        reg json tag = f.stream reg json tag := by
      simp only [stream, atDispatcher, inHand, inQueue, hp, filterMap_concat_toList,
        Option.bind_some, Posted.commandOn, hcommand, if_true, List.append_assoc]
      rfl
    exact hf.congr hstream rfl

end Flow

/-! ## Runs -/

/-- For every tag the values handed to `modbus_write_request` on behalf of commands are a
subsequence of the decoded values of the accepted messages. -/
def CommandPath.CommandsInOrder (reg : Registry) (json : ArduinoJson) (s : CommandPath) : Prop :=
  ∀ tag, (s.handed.filterMap (commandOn tag)).Sublist
    (s.accepted.filterMap (decodedOn reg json tag))

theorem commandsInOrder_of_flow {reg : Registry} {json : ArduinoJson} {s : CommandPath}
    (h : ∀ tag, (s.flow reg json).InOrder reg json tag) : s.CommandsInOrder reg json :=
  fun tag => (List.sublist_append_left _ _).trans (h tag)

theorem inOrder_commandStep {reg : Registry} {json : ArduinoJson} (s : CommandPath)
    (a : CommandStep) (s' : CommandPath)
    (hs : s.Alone ∧ ∀ tag, (s.flow reg json).InOrder reg json tag)
    (ha : commandStep reg json s a = some s') :
    s'.Alone ∧ ∀ tag, (s'.flow reg json).InOrder reg json tag := by
  obtain ⟨halone, hrefines⟩ := CommandPath.refines_commandStep hs.1 ha
  refine ⟨halone, fun tag => ?_⟩
  rcases hrefines with ⟨-, hstep⟩ | ⟨-, hdrop⟩
  · exact Flow.inOrder_flowStep (hs.2 tag) hstep
  · rw [hdrop]
    exact Flow.inOrder_drop (hs.2 tag) none rfl

/-- **Relay commands keep their order and are never duplicated.** -/
theorem commands_in_order (reg : Registry) (json : ArduinoJson) (dispatcher : DispatcherState)
    (as : List CommandStep) :
    Always (commandStep reg json) (CommandPath.CommandsInOrder reg json) (.boot dispatcher) as :=
  (always_of_invariant inOrder_commandStep
    ⟨CommandPath.alone_boot dispatcher, fun _ => List.nil_sublist _⟩ as).mono
    fun _ h => commandsInOrder_of_flow h.2

end XIoT.Subscriber

import XIoT.Mediator
import XIoT.NetworkEvents

/-!
# From the link to the MQTT service

The state machine of the Wi-Fi service posts its events in its own task, and the event loop
hands them to `app_event_handler` in another. The two together keep the MQTT service up
exactly while the station has an address.
-/

namespace XIoT.App

open Lib.Runs
open Lib.Alternation (Mark latest)
open Wifi (WifiRun WifiStep WifiCall ClosesNetwork Paired networkMarks)

structure Connectivity where
  wifi : WifiRun
  /-- The calls that `wifiFSTMTask` has still to make for its message. The connection state
  is written with the message and not after its calls: until they are made, it may show a
  reader of `wifi_get_connection_state` what the task has still to write. -/
  pending : List WifiCall
  mediator : Mediator

namespace Connectivity

def boot : Connectivity := ⟨.boot, [], .boot⟩

/-- What `wifiFSTMTask` has still to call. `wifi_stop` deletes the task. -/
def pendingAfter (s : Connectivity) (wifi : WifiRun) : WifiStep → List WifiCall
  | .message _ _ _ => wifi.calls.drop s.wifi.calls.length
  | .stop _ => if s.wifi.vars.gWifiState = .running then [] else s.pending
  | _ => s.pending

/-- The next message is taken when the calls for the one before are made. -/
def wifiStep (s : Connectivity) (a : WifiStep) : Option Connectivity :=
  match a, s.pending with
  | .message _ _ _, _ :: _ => none
  | _, _ => (Wifi.wifiStep s.wifi a).map fun wifi =>
    { s with wifi := wifi, pending := s.pendingAfter wifi a }

def call (s : Connectivity) (accepted : Bool) : Option Connectivity :=
  match s.pending with
  | [] => none
  | .eventPost event :: rest =>
    some { s with pending := rest, mediator := s.mediator.eventPost event accepted }
  | _ :: rest => some { s with pending := rest }

end Connectivity

/-- What an event of the network does to the connection. -/
def linkMark (event : AppEvent) : Option Mark := Wifi.networkMark (.eventPost event)

structure Connectivity.Inv (s : Connectivity) : Prop where
  paired : Paired s.wifi
  mediator : s.mediator.Inv
  /-- What was posted, and what is about to be, is what the state machine has decided. -/
  posted : s.mediator.posted.filterMap linkMark ++ networkMarks s.pending = networkMarks s.wifi.calls
  network : ∀ event, .eventPost event ∈ s.pending → linkMark event ≠ none

section

variable {s s' : Connectivity}

end

/-! ## Runs -/

/-- The state machine has made its calls, and the event loop is at rest. -/
def Connectivity.AtRest (s : Connectivity) : Prop := s.pending = [] ∧ App.AtRest s.mediator

end XIoT.App

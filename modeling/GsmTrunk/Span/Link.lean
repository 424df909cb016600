import GsmTrunk.Call.Network
import GsmTrunk.Sms.Outbound

/-!
# Link and module of a span

The link comes up and goes down, alarms are raised and cleared, the SIM card, its PIN and the
signal fail, and the module is switched on and off. Whatever takes the link away takes the call
with it and gives up the messages under way. An alarm alone leaves the messages, and also the call
where the span is to keep calls through alarms.
-/

namespace GsmTrunk.SpanState

def linkUp (s : SpanState) (now : Millis) : Reaction :=
  if s.availability.contains Availability.provisioned then
    ({ s with
        availability := s.availability.markUp
        moduleAlive := true
        detection := {}
        lastReset := now + s.policy.linkUpGrace },
      [.notify .spanUp])
  else (s, [])

/-- The call is torn down, the messages are given up for a reason, and a notice follows. -/
def loseLink (s : SpanState) (reason : String) (notice : Notice) : Reaction :=
  let (s, calls) := s.teardown Cause.networkOutOfOrder
  let (s, jobs) := s.failPendingJobs reason
  (s, calls ++ jobs ++ [.notify notice])

def linkDown (s : SpanState) : Reaction :=
  { s with availability := s.availability.markDown }.loseLink "link down" .spanDown

def alarm (s : SpanState) : Reaction :=
  let s := { s with availability := s.availability.enterAlarm }
  if s.config.t309Enabled then (s, [.notify .spanAlarm])
  else
    let (s, effects) := s.teardown Cause.networkOutOfOrder
    (s, .notify .spanAlarm :: effects)

def noAlarm (s : SpanState) : Reaction :=
  ({ s with availability := s.availability.leaveAlarm }, [.notify .spanNoAlarm])

def raiseFault (s : SpanState) (bit : UInt8) (notice : Notice) : Reaction :=
  { s with availability := s.availability.raiseFault bit }.loseLink notice.kind notice

/-- The event of a fault; other events are none. -/
def fault (s : SpanState) : Event → Reaction
  | .simMissing => s.raiseFault Availability.noSim .simMissing
  | .pinError => s.raiseFault Availability.pinError .pinError
  | .noSignal => s.raiseFault Availability.noSignal .noSignal
  | _ => (s, [])

def isNoSignal (rssi : UInt8) : Bool :=
  rssi = 0 || rssi = 99

def signalLevel (s : SpanState) (rssi : UInt8) : Reaction :=
  let s := { s with rssi := some rssi }
  let flagged := s.availability.contains Availability.noSignal
  if isNoSignal rssi then
    if flagged then (s, []) else s.raiseFault Availability.noSignal .noSignal
  else if flagged then
    ({ s with availability := s.availability.remove Availability.noSignal }, [])
  else (s, [])

def powerOn (s : SpanState) : Reaction :=
  ({ s with
      availability := s.availability.insert Availability.powered
      moduleAlive := true
      detection := {} },
    [.notify .powerOn])

def powerOff (s : SpanState) : Reaction :=
  { s with
    availability := (s.availability.remove Availability.powered).markDown
    moduleAlive := false }.loseLink "module powered off" .powerOff

def detectTimeout (s : SpanState) : Reaction :=
  if s.moduleAlive || s.detection.gaveUp then (s, []) else (s, [.startModule])

end GsmTrunk.SpanState

/-!
# Release causes

Causes of Q.850 with which a call is released, their names, and what the party on the other side
of the gateway is told: that the called party is busy, that the network is congested, or that the
call failed.
-/

namespace GsmTrunk

abbrev Cause := UInt8

namespace Cause

abbrev normalClearing : Cause := 16
abbrev userBusy : Cause := 17
abbrev callRejected : Cause := 21
abbrev destinationOutOfOrder : Cause := 27
abbrev normalCircuitCongestion : Cause := 34
abbrev networkOutOfOrder : Cause := 38
abbrev normalTemporaryFailure : Cause := 41
abbrev switchCongestion : Cause := 42
abbrev requestedChannelUnavailable : Cause := 44

def names : List (Cause × String) := [
  (1, "UNALLOCATED"),
  (16, "NORMAL_CLEARING"),
  (17, "USER_BUSY"),
  (18, "NO_USER_RESPONSE"),
  (19, "NO_ANSWER"),
  (21, "CALL_REJECTED"),
  (27, "DESTINATION_OUT_OF_ORDER"),
  (28, "INVALID_NUMBER_FORMAT"),
  (29, "FACILITY_REJECTED"),
  (31, "NORMAL_UNSPECIFIED"),
  (34, "NORMAL_CIRCUIT_CONGESTION"),
  (38, "NETWORK_OUT_OF_ORDER"),
  (41, "NORMAL_TEMPORARY_FAILURE"),
  (42, "SWITCH_CONGESTION"),
  (44, "REQUESTED_CHAN_UNAVAIL"),
  (47, "RESOURCE_UNAVAIL_UNSPECIFIED"),
  (127, "INTERWORKING")]

def name (c : Cause) : String :=
  (names.lookup c).getD "UNKNOWN"

end Cause

inductive Outcome where
  | busy
  | congestion
  | failure
  deriving DecidableEq

def Outcome.name : Outcome → String
  | .busy => "busy"
  | .congestion => "congestion"
  | .failure => "failure"

def Outcome.all : List Outcome :=
  [.busy, .congestion, .failure]

namespace Cause

def congested : List Cause :=
  [callRejected, networkOutOfOrder, normalCircuitCongestion, switchCongestion,
    destinationOutOfOrder, normalTemporaryFailure]

def outcome (c : Cause) : Outcome :=
  if c = userBusy then .busy else if c ∈ congested then .congestion else .failure

/-- Whether the bearer channel is to be restarted before it is used again. -/
def forcesReset (c : Cause) : Bool :=
  c = requestedChannelUnavailable

end Cause

end GsmTrunk

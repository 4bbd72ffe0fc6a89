import OpenZk.PlanOverflow
import OpenZk.RangeCount
import OpenZk.Stateful

set_option autoImplicit false

namespace OpenZk.StatusCommand

open Words Planner RpcMonitor

inductive StatusLine where
  | l1Latest (number : UInt64)
  | l2Latest (number : UInt64)
  | l2Safe (number : UInt64)
  | latestProven (number : UInt64)
  | pending (blocks : UInt64)
  | unexpectedResponse
  | callFailed (reason : String)
  | tip
deriving DecidableEq

abbrev Report (α : Type) := Stateful String (List StatusLine) α

structure Environment where
  parseUrl : String → Except String Unit
  parseAddress : String → Except String Address
  connect : String → Node
  blockNumber : String → Except String UInt64

section Agreement

variable (env : Environment) (l1RpcUrl l2RpcUrl text : String) (address : Address) (printed : List StatusLine)

end Agreement

def sampleEnv : Environment where
  parseUrl := fun _ => .ok ()
  parseAddress := fun _ => .ok 0xc1
  connect := fun _ => ⟨fun _ => .ok (some ⟨zeroWord, 9⟩), fun _ _ => .ok (abiUint64 4)⟩
  blockNumber := fun _ => .ok 12

end OpenZk.StatusCommand

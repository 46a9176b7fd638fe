import CotServer.Model.Sample
import CotServer.Verify.Recharge.Awake
import CotServer.Verify.Redemption.Awake

/-!
# No order stands still before its outgoing transaction

The mint of a recharge and the payout of a redemption go on by messages, a queue, a timer and the
reports of the wallet. No handler takes the last of these away, also when it throws, when messages
get lost with the connection, and over restarts and retries.
-/

namespace CotServer

open LegKind

namespace Sample

/-- The message that starts a mint gets lost with the connection. -/
def reconnects : List WorkerStep :=
  [{ event := .setOrderPending, answers := [.done] }, { event := .queueInited, answers := [] },
    { event := .queueWaited 0, answers := [.done] },
    { event := .mqReConnect, answers := [.done], lost := [.TO_TX_START] }]

end Sample

end CotServer

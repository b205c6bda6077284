import RouterApi.Proofs.Client.Submission
import RouterApi.Proofs.Session.Runs
import RouterApi.Session.Detached

/-!
# What hosts do in a run

Whatever callbacks ask of a client on its background reader, or of a detached session, is a run of
the session itself: it mints tags, makes, registers and removes requests, and may complete all
outstanding ones.
-/

namespace RouterApi
namespace Client

open Session (Reaches)

variable {client : Client}

/-- Closing a connection is a run. -/
theorem reaches_shutDown (client : Client) : Reaches client client.shutDown := by
  unfold shutDown
  split
  · exact .refl
  · refine .trans ?_ (.failAll (fun _ => .refl) _)
    exact .trans (.trans (.relink _) (.log _ _ _)) (.relink _)

theorem reaches_enlist
    (words : List Word)
    (handler : Handler)
    (client : Client) :
    Reaches client (client.enlist words handler) :=
  .trans .mint (.make { tag := client.nextTag, words, handler } rfl)

/-- Each step of a submission is a run. -/
theorem transmits_reaches (start : Client) : Transmits (Reaches start) where
  enlist words handler reached := reached.trans (reaches_enlist words handler _)
  enroll {client} words handler working free reached := by
    have known := request?_enlist_self words handler client
    have registered := register_enlist words handler working free
    exact (reached.trans (reaches_enlist words handler client)).trans
      (.register _ known rfl registered)
  showing _ reached := reached.trans (.log _ _ _)
  send _ reached _ := reached.trans (.relink _)
  remove tag reached := reached.trans (.remove tag)

/-- Cancelling a command on the background reader is a run. -/
theorem reaches_cancel
    (tag : Text)
    (client : Client) :
    Reaches client (readerHost.cancel tag client).2 :=
  (transmits_reaches client).cancel (fun reached => reached.trans (reaches_shutDown _)) tag .refl

end Client

namespace Detached

/-- A detached session only notes a cancellation. -/
theorem reaches_cancel
    (tag : Text)
    (session : Session Detached) :
    Session.Reaches session (host.cancel tag session).2 :=
  .relink _

end Detached
end RouterApi

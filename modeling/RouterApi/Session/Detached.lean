import RouterApi.Session.Dispatch

/-!
# Detached sessions

A session without a transport. It notes the cancellations asked of it, and it answers whether it is
closed from a list of answers, and affirmatively once they are used up. Closing it discards the
answers.
-/

namespace RouterApi

/-- The own part of a session without a transport. -/
structure Detached where
  answers : List Bool := []
  cancelled : List Text := []
  deriving DecidableEq, Repr

namespace Detached

/-- The part of a detached session in the delivery of sentences. -/
def host : Host Detached where
  cancel tag session :=
    (.ok tag, { session with link :=
      { session.link with cancelled := session.link.cancelled ++ [tag] } })
  close session := { session with link := { session.link with answers := [] } }
  giveUp? link := some { link with answers := (link.answers.dropWhile (! ·)).drop 1 }

end Detached
end RouterApi

import RouterApi.Proofs.Client.Stability

/-!
# Closed clients

Closing a connection cuts it off: no request stays outstanding, no further one is registered, and
the connection never opens again. Requests are kept, and so is the mode of operation.
-/

namespace RouterApi
namespace Client

variable {client : Client}

/-- A connection that has been closed has no outstanding requests, and takes no new ones. -/
structure IsCutOff (client : Client) : Prop where
  failed : client.dispatcher.failure ≠ none
  empty : client.dispatcher.pending = []
  isClosed : client.link.isClosed = true

theorem stable_isCutOff : Stable (fun _ => True) IsCutOff where
  entry _ _ := trivial
  log _ _ _ cutOff := ⟨cutOff.failed, cutOff.empty, cutOff.isClosed⟩
  receipt _ cutOff := ⟨cutOff.failed, cutOff.empty, cutOff.isClosed⟩
  conclude error _ _ _ cutOff := by
    unfold Session.conclude
    split
    · exact ⟨cutOff.failed, cutOff.empty, cutOff.isClosed⟩
    · exact ⟨cutOff.failed, cutOff.empty, cutOff.isClosed⟩
    · exact ⟨cutOff.failed, cutOff.empty, cutOff.isClosed⟩
  queue _ _ _ _ cutOff := ⟨cutOff.failed, cutOff.empty, cutOff.isClosed⟩
  fold _ _ cutOff := ⟨cutOff.failed, cutOff.empty, cutOff.isClosed⟩
  call _ _ _ _ cutOff := ⟨cutOff.failed, cutOff.empty, cutOff.isClosed⟩
  mark _ _ _ cutOff := ⟨cutOff.failed, cutOff.empty, cutOff.isClosed⟩
  remove tag cutOff :=
    { failed := cutOff.failed
      empty := by
        have empty := cutOff.empty
        simp [Session.remove, Dispatcher.remove, empty, Assoc.erase]
      isClosed := cutOff.isClosed }
  unmatched _ _ cutOff := ⟨cutOff.failed, cutOff.empty, cutOff.isClosed⟩
  cutOff error cutOff :=
    { failed := by simp [Session.cutOff]
      empty := rfl
      isClosed := cutOff.isClosed }
  enlist _ _ cutOff := ⟨cutOff.failed, cutOff.empty, cutOff.isClosed⟩
  enroll _ _ working _ cutOff := absurd working cutOff.failed
  send _ cutOff _ := ⟨cutOff.failed, cutOff.empty, cutOff.isClosed⟩
  closing _ cutOff := ⟨cutOff.failed, cutOff.empty, rfl⟩
  holdup _ _ := trivial
  take cutOff := ⟨cutOff.failed, cutOff.empty, cutOff.isClosed⟩
  idle _ cutOff := ⟨cutOff.failed, cutOff.empty, cutOff.isClosed⟩
  hold _ _ _ _ _ cutOff := ⟨cutOff.failed, cutOff.empty, cutOff.isClosed⟩
  exit _ cutOff := ⟨cutOff.failed, cutOff.empty, cutOff.isClosed⟩

/-- Closing an open connection cuts it off. -/
theorem isCutOff_shutDown (isOpen : client.link.isClosed = false) : client.shutDown.IsCutOff := by
  unfold shutDown
  simp only [isOpen]
  exact stable_isCutOff.failEach id _ (fun _ _ => trivial)
    ⟨by simp, rfl, rfl⟩

theorem isClosed_close (client : Client) : client.close.link.isClosed = true := by
  unfold close
  cases isClosed : client.link.isClosed with
  | true => exact isClosed
  | false => exact (stable_isCutOff.settle (isCutOff_shutDown isClosed)).isClosed

/-- Requests are never forgotten. -/
theorem steady_known (number : Nat) :
    Steady (fun _ => True) fun client => number < client.dispatcher.requests.length where
  entry _ _ := trivial
  log _ _ _ known := known
  receipt _ known := known
  conclude error _ _ _ known := by rwa [Session.length_conclude]
  queue _ _ _ _ known := by rwa [Session.length_modify]
  fold _ _ known := by rwa [Session.length_modify]
  call _ _ _ _ known := known
  mark _ _ _ known := by rwa [Session.length_modify]
  remove _ known := known
  unmatched _ _ known := known
  cutOff _ known := known
  enlist _ _ known := by
    rw [length_enlist]
    exact Nat.lt_succ_of_lt known
  enroll _ _ _ _ known := by
    rw [length_enroll]
    exact Nat.lt_succ_of_lt known
  send _ known _ := known
  closing _ known := known

theorem steady_isAsynchronous (mode : Bool) :
    Steady (fun _ => True) fun client => client.link.isAsynchronous = mode :=
  steady_link (·.isAsynchronous = mode) (fun _ _ _ same => same) fun _ _ same => same

/-- Only its caller changes the mode of a client. -/
theorem stable_isAsynchronous (mode : Bool) :
    Stable (fun _ => True) fun client => client.link.isAsynchronous = mode where
  toSteady := steady_isAsynchronous mode
  holdup _ _ := trivial
  take same := same
  idle _ same := same
  hold _ _ _ _ _ same := same
  exit _ same := same

end Client
end RouterApi

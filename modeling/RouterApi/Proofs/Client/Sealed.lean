import RouterApi.Proofs.Client.Life

/-!
# Sealed connections

A closed connection never opens again, and its stream is neither written to nor read from any more.
So whatever is said about the stream of a closed connection stays true, as long as it does not
depend on what the device does.
-/

namespace RouterApi

/-- A connection is sealed if it is closed, and something holds of its stream. -/
structure Connection.IsSealed
    (Fact : Stream → Prop)
    (link : Connection) : Prop where
  isClosed : link.isClosed = true
  fact : Fact link.stream

namespace Client

variable {Fact : Stream → Prop} {client : Client}

/-- A sealed connection is not open. -/
theorem elim_of_isSealed
    {motive : Prop}
    {link : Connection}
    (isSealed : link.IsSealed Fact)
    (isOpen : link.isClosed = false) :
    motive := by
  rw [isSealed.isClosed] at isOpen
  contradiction

theorem steady_isSealed (Fact : Stream → Prop) :
    Steady (fun _ => True) fun client => client.link.IsSealed Fact :=
  steady_link (·.IsSealed Fact) (fun _ _ isOpen isSealed => elim_of_isSealed isSealed isOpen)
    fun _ isOpen isSealed => elim_of_isSealed isSealed isOpen

/-- The background reader leaves a sealed connection sealed. -/
theorem upholds_isSealed (Fact : Stream → Prop) :
    Upholds (fun _ _ => True) (fun _ => True) fun client => client.link.IsSealed Fact where
  toSession := (steady_isSealed Fact).stableUnder.upholds
  fits _ := trivial
  holdup _ _ := ⟨⟨[], trivial⟩, fun _ _ => trivial⟩
  take isOpen isSealed := elim_of_isSealed isSealed isOpen
  idle _ isSealed := ⟨isSealed.isClosed, isSealed.fact⟩
  hold _ _ _ _ _ isSealed := ⟨isSealed.isClosed, isSealed.fact⟩
  endReader := (steady_isSealed Fact).shuts.endReader
    fun _ isSealed => ⟨isSealed.isClosed, isSealed.fact⟩

/-- Every action leaves a sealed connection sealed, if what is said about the stream does not depend
on what the device does. -/
theorem endures_isSealed
    (Fact : Stream → Prop)
    (arrive : ∀ {stream} chunks, Fact stream → Fact (stream.arrive chunks))
    (vanish : ∀ {stream : Stream}, Fact stream → Fact { stream with hungUp := true }) :
    Endures (fun _ _ => True) (fun _ => True) fun client => client.link.IsSealed Fact where
  toUpholds := upholds_isSealed Fact
  owner _ := ⟨[], trivial⟩
  conclude error := (steady_isSealed Fact).conclude error trivial
  items _ _ _ isSealed := isSealed
  arrive chunks isSealed := ⟨isSealed.isClosed, arrive chunks isSealed.fact⟩
  vanish isSealed := ⟨isSealed.isClosed, vanish isSealed.fact⟩
  engage _ isOpen isSealed := elim_of_isSealed isSealed isOpen
  exchange isOpen _ isSealed := elim_of_isSealed isSealed isOpen
  submit words handler keeps := (steady_isSealed Fact).transmits.submit keeps words handler

/-- A sealed connection stays sealed throughout a life. -/
theorem isSealed_live
    (arrive : ∀ {stream} chunks, Fact stream → Fact (stream.arrive chunks))
    (vanish : ∀ {stream : Stream}, Fact stream → Fact { stream with hungUp := true })
    (actions : List Action)
    (isSealed : client.link.IsSealed Fact) :
    (client.live actions).link.IsSealed Fact := by
  have endures := endures_isSealed Fact arrive vanish
  refine endures.live ?_ actions isSealed
  intro client words _ isSealed
  exact (steady_isSealed Fact).transmits.toWrites.write endures.closeByCaller words isSealed

/-- A closed connection stays closed, and no data is offered to its stream any more. -/
theorem offered_live_of_isClosed
    (isClosed : client.link.isClosed = true)
    (actions : List Action) :
    (client.live actions).link.isClosed = true ∧
      (client.live actions).link.stream.offered = client.link.stream.offered := by
  have isSealed : client.link.IsSealed (·.offered = client.link.stream.offered) := ⟨isClosed, rfl⟩
  have after := isSealed_live (fun _ same => same) (fun same => same) actions isSealed
  exact ⟨after.isClosed, after.fact⟩

end Client
end RouterApi

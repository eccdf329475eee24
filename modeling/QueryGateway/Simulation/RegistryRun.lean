import QueryGateway.Simulation.Scene

/-! # The registry against scripted peers -/

namespace QueryGateway.Simulation

/-- What may be asked of a registry and of its handles, which are known by the names of their
peers. -/
inductive RegistryStep where
  | new (name : String) (first : List Action) (replies : List (List Action))
  | register (client : ClientId) (name : String)
  | get (client : ClientId)
  | remove (client : ClientId)
  | removeIfCurrent (client : ClientId) (name : String)
  | closeAll
  | close (name : String)
  | hangUp (name : String)
  | sleep (milliseconds : Nat)
  | deliver (name : String) (frame : ResultFrame) (timeout : Nat)

/-- What a step led to. -/
inductive RegistryOutcome where
  | ok
  /-- The name of a handle, if there is one. -/
  | handle (name : Option String)
  | removed (removed : Bool)
  | closed (count : Nat)
  | delivered (result : Except WireError AckOutcome)
  /-- There is no handle of this name. -/
  | unknown

/-- The frame that a peer acknowledges results with. -/
def acknowledgement : List Action :=
  [.frame (.ofText resultAck)]

namespace Scene

/-- Performs a step with the handle of a name. -/
def withHandle (s : Scene) (name : String) (use : Handle → RegistryOutcome × Scene) :
    RegistryOutcome × Scene :=
  match s.find? name with
  | some h => use h
  | none => (.unknown, s)

/-- Performs one step, apart from what happens after it. -/
def registryStep (s : Scene) : RegistryStep → RegistryOutcome × Scene
  | .new name first replies =>
    (.ok, (s.connect name (.new s.now first replies acknowledgement)).2)
  | .register client name => s.withHandle name fun h =>
    match s.perform (Delivery.register client h) with
    | (some (some old), s) => (.handle (some (s.nameOf old)), s)
    | (_, s) => (.handle none, s)
  | .get client => (.handle ((s.registry.get? client).map s.nameOf), s)
  | .remove client =>
    let (handle, s) := s.remove client
    (.handle (handle.map s.nameOf), s)
  | .removeIfCurrent client name => s.withHandle name fun h =>
    match s.perform (Delivery.removeIfCurrent client h) with
    | (some removed, s) => (.removed removed, s)
    | (none, s) => (.removed false, s)
  | .closeAll =>
    match s.perform Delivery.closeAll with
    | (some count, s) => (.closed count, s)
    | (none, s) => (.closed 0, s)
  | .close name => s.withHandle name fun h => (.ok, (s.perform (Delivery.close h)).2)
  | .hangUp name => s.withHandle name fun h => (.ok, s.modify h Line.hangUp)
  | .sleep ms => (.ok, s.pass ms)
  | .deliver name frame timeout => s.withHandle name fun h =>
    match s.perform (Delivery.deliver h frame timeout) with
    | (some result, s) => (.delivered result, s)
    | (none, s) => (.unknown, s)

/-- Performs one step and lets everything that is due then happen. -/
def registryRun (s : Scene) (step : RegistryStep) : (RegistryOutcome × Nat) × Scene :=
  let (outcome, s) := s.registryStep step
  let s := s.settle
  ((outcome, s.registry.size), s)

end Scene

end QueryGateway.Simulation

import BaseStation.Object.Guard
import BaseStation.Object.Tree
import BaseStation.Object.Hardware
import BaseStation.Primitive

namespace BaseStation.Management

inductive Trace
  | dispatched (id : ObjectId) (kind : EventKind)
  | moved (id : ObjectId) (source target : Phase)
  deriving DecidableEq, Repr

def Trace.text : Trace → String
  | dispatched id kind => id.text ++ " <- " ++ kind.name
  | moved id source target => id.text ++ ": " ++ source.name ++ " -> " ++ target.name

structure Site where
  tree : Tree
  hardware : Hardware
  pending : List PendingEvent
  outputs : List Primitive
  trace : List Trace
  deriving DecidableEq, Repr

abbrev Step := Site → Except Fault Site

/-- Tells an object of an event. -/
abbrev Dispatcher := ObjectId → Event → Step

namespace Site

def quiet (tree : Tree) (hardware : Hardware) : Site := ⟨tree, hardware, [], [], []⟩

def object (site : Site) (id : ObjectId) : Except Fault ManagedObject :=
  match site.tree.get? id with
  | some object => .ok object
  | none => .error (.unknownObject id)

def modify (site : Site) (id : ObjectId) (f : ManagedObject → ManagedObject) : Site :=
  { site with tree := site.tree.modify id f }

def emit (site : Site) (primitive : Primitive) : Site :=
  { site with outputs := site.outputs ++ [primitive] }

def report (site : Site) (report : Report) : Site := site.emit (.report report)

def record (site : Site) (entry : Trace) : Site :=
  { site with trace := site.trace ++ [entry] }

def raise (site : Site) (events : List PendingEvent) : Site :=
  { site with pending := site.pending ++ events }

end Site

end BaseStation.Management

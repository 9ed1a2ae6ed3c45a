import BaseStation.Proofs.Management.Reaction

namespace BaseStation.Management

/-- What the BSC holds of an object, once it is sent a primitive. -/
def heard (id : ObjectId) (state : ObjectState) : Primitive → ObjectState
  | .report (.stateChanged id' state') => if id' = id then state' else state
  | _ => state

def replay (id : ObjectId) (state : ObjectState) (sent : List Primitive) : ObjectState :=
  sent.foldl (heard id) state

inductive Entry
  | did (trace : Trace)
  | said (primitive : Primitive)

namespace Entry

def trace? : Entry → Option Trace
  | did trace => some trace
  | said _ => none

def primitive? : Entry → Option Primitive
  | did _ => none
  | said primitive => some primitive

def isReport : Entry → Bool
  | said (.report (.stateChanged _ _)) => true
  | _ => false

def noReports (said : List Primitive) : Bool := said.all fun primitive => !(Entry.said primitive).isReport

def seen (view : ObjectId → ObjectState) : Entry → ObjectId → ObjectState
  | did _, id => view id
  | said primitive, id => heard id (view id) primitive

/-- A report tells the BSC something new, unless it is sent just as its object was told that the link to
the BSC came up. -/
def IsJustified (view : ObjectId → ObjectState) (last : Option Entry) : Entry → Prop
  | said (.report (.stateChanged id state)) =>
    view id = state → last = some (did (.dispatched id .omlUp))
  | _ => True

end Entry

def traces (log : List Entry) : List Trace := log.filterMap Entry.trace?

def primitives (log : List Entry) : List Primitive := log.filterMap Entry.primitive?

def seen (view : ObjectId → ObjectState) (log : List Entry) : ObjectId → ObjectState :=
  log.foldl (fun view entry => entry.seen view) view

def Justified (view : ObjectId → ObjectState) (last : Option Entry) : List Entry → Prop
  | [] => True
  | entry :: rest => entry.IsJustified view last ∧ Justified (entry.seen view) (some entry) rest

section log

variable {view : ObjectId → ObjectState} {last : Option Entry} {log log' : List Entry}

@[simp] theorem traces_append (log log' : List Entry) : traces (log ++ log') = traces log ++ traces log' :=
  List.filterMap_append

@[simp] theorem primitives_append (log log' : List Entry) :
    primitives (log ++ log') = primitives log ++ primitives log' :=
  List.filterMap_append

theorem seen_append (view : ObjectId → ObjectState) (log log' : List Entry) :
    seen view (log ++ log') = seen (seen view log) log' :=
  List.foldl_append

theorem seen_eq_replay (view : ObjectId → ObjectState) (log : List Entry) (id : ObjectId) :
    seen view log id = replay id (view id) (primitives log) := by
  induction log generalizing view with
  | nil => rfl
  | cons entry rest ih =>
    refine (ih (entry.seen view)).trans ?_
    cases entry <;> rfl

theorem justified_append : Justified view last (log ++ log') ↔
    Justified view last log ∧ Justified (seen view log) (log.getLast?.or last) log' := by
  induction log generalizing view last with
  | nil => simp [Justified, seen]
  | cons entry rest ih =>
    have final : (entry :: rest).getLast?.or last = rest.getLast?.or (some entry) := by
      rw [List.getLast?_cons]
      cases rest.getLast? <;> rfl
    rw [List.cons_append, Justified, Justified, ih, and_assoc, final]
    rfl

theorem Justified.after (justified : Justified view none log) (last : Option Entry) :
    Justified view last log := by
  cases log with
  | nil => trivial
  | cons entry rest =>
    refine ⟨?_, justified.2⟩
    have first := justified.1
    unfold Entry.IsJustified at first ⊢
    split
    · intro same
      cases first same
    · trivial

theorem Entry.plain {entry : Entry} (plain : entry.isReport = false) (view : ObjectId → ObjectState)
    (last : Option Entry) : entry.seen view = view ∧ entry.IsJustified view last := by
  cases entry with
  | did _ => exact ⟨rfl, trivial⟩
  | said primitive =>
    cases primitive with
    | report report =>
      cases report with
      | stateChanged _ _ => cases plain
      | _ => exact ⟨rfl, trivial⟩
    | _ => exact ⟨rfl, trivial⟩

theorem plain_log (plain : ∀ entry ∈ log, entry.isReport = false) (view : ObjectId → ObjectState)
    (last : Option Entry) : seen view log = view ∧ Justified view last log := by
  induction log generalizing last with
  | nil => exact ⟨rfl, trivial⟩
  | cons entry rest ih =>
    obtain ⟨same, justified⟩ := Entry.plain (plain entry List.mem_cons_self) view last
    obtain ⟨same', justified'⟩ := ih (fun e mem => plain e (List.mem_cons_of_mem _ mem)) (some entry)
    refine ⟨?_, justified, ?_⟩
    · show seen (entry.seen view) rest = view
      rw [same, same']
    · rw [same]
      exact justified'

end log

def Agrees (view : ObjectId → ObjectState) (tree : Tree) : Prop :=
  ∀ id object, tree.get? id = some object → view id = object.published

/-- One site comes from another by what stands in the log. The BSC's view stays right, every report is
justified, and an object is told that the link to the BSC came up only if `roused`. -/
structure Logged (roused : Prop) (site : Site) (log : List Entry) (site' : Site) : Prop where
  outputs : site'.outputs = site.outputs ++ primitives log
  trace : site'.trace = site.trace ++ traces log
  agrees : ∀ view, Agrees view site.tree → Agrees (seen view log) site'.tree
  justified : ∀ view, Agrees view site.tree → Justified view none log
  roused : ∀ id, Trace.dispatched id .omlUp ∈ traces log → roused
  waiting : (∀ waiting ∈ site.pending, waiting.event ≠ .omlUp) →
    ∀ waiting ∈ site'.pending, waiting.event ≠ .omlUp

section logged

variable {roused : Prop} {site site' site'' : Site} {log log' : List Entry}

theorem Logged.refl (roused : Prop) (site : Site) : Logged roused site [] site :=
  ⟨(List.append_nil _).symm, (List.append_nil _).symm, fun _ agrees => agrees, fun _ _ => trivial,
    fun _ mem => absurd mem List.not_mem_nil, fun idle => idle⟩

theorem Logged.trans (first : Logged roused site log site') (last : Logged roused site' log' site'') :
    Logged roused site (log ++ log') site'' := by
  refine ⟨?_, ?_, ?_, ?_, ?_, fun idle => last.waiting (first.waiting idle)⟩
  · rw [last.outputs, first.outputs, primitives_append, List.append_assoc]
  · rw [last.trace, first.trace, traces_append, List.append_assoc]
  · intro view agrees
    rw [seen_append]
    exact last.agrees _ (first.agrees view agrees)
  · intro view agrees
    rw [justified_append]
    exact ⟨first.justified view agrees, (last.justified _ (first.agrees view agrees)).after _⟩
  · intro id mem
    rw [traces_append, List.mem_append] at mem
    rcases mem with mem | mem
    · exact first.roused id mem
    · exact last.roused id mem

theorem Logged.mono {roused' : Prop} (logged : Logged roused site log site')
    (h : roused → roused') : Logged roused' site log site' :=
  { logged with roused := fun id mem => h (logged.roused id mem) }

theorem primitives_log (did : List Trace) (said : List Primitive) :
    primitives (did.map .did ++ said.map .said) = said := by
  simp [primitives, Entry.primitive?, List.filterMap_map, Function.comp_def]

theorem traces_log (did : List Trace) (said : List Primitive) :
    traces (did.map .did ++ said.map .said) = did := by
  simp [traces, Entry.trace?, List.filterMap_map, Function.comp_def]

theorem Logged.plain (did : List Trace) (said : List Primitive) (tree : site'.tree = site.tree)
    (outputs : site'.outputs = site.outputs ++ said) (trace : site'.trace = site.trace ++ did)
    (noReports : Entry.noReports said = true)
    (rousing : ∀ id, Trace.dispatched id .omlUp ∈ did → roused)
    (waiting : (∀ waiting ∈ site.pending, waiting.event ≠ .omlUp) →
      ∀ waiting ∈ site'.pending, waiting.event ≠ .omlUp) :
    Logged roused site (did.map .did ++ said.map .said) site' := by
  have plain : ∀ entry ∈ did.map Entry.did ++ said.map Entry.said, entry.isReport = false := by
    intro entry mem
    rcases List.mem_append.mp mem with mem | mem
    · obtain ⟨trace, _, rfl⟩ := List.mem_map.mp mem
      rfl
    · obtain ⟨primitive, was, rfl⟩ := List.mem_map.mp mem
      simpa using List.all_eq_true.mp noReports primitive was
  refine ⟨?_, ?_, ?_, fun view _ => (plain_log plain view none).2, ?_, waiting⟩
  · rw [primitives_log, outputs]
  · rw [traces_log, trace]
  · intro view agrees
    rw [(plain_log plain view none).1, tree]
    exact agrees
  · rw [traces_log]
    exact rousing

theorem Logged.put {id : ObjectId} {object object' : ManagedObject} (roused : Prop)
    (found : site.tree.get? id = some object) (tree : site'.tree = site.tree.put id object')
    (outputs : site'.outputs = site.outputs ++ news id object.published object'.published)
    (trace : site'.trace = site.trace) (pending : site'.pending = site.pending) :
    Logged roused site ((news id object.published object'.published).map .said) site' := by
  have said : primitives ((news id object.published object'.published).map .said) =
      news id object.published object'.published := primitives_log [] _
  have did : traces ((news id object.published object'.published).map .said) = [] := traces_log [] _
  refine ⟨?_, ?_, ?_, ?_, ?_, ?_⟩
  · rw [said, outputs]
  · rw [did, trace, List.append_nil]
  · intro view agrees other object'' found''
    rw [seen_eq_replay, said]
    rw [tree] at found''
    by_cases same : id = other
    · subst same
      rw [Tree.get?_put_self object' found] at found''
      cases found''
      rw [agrees id object found]
      unfold news
      split
      · rename_i unchanged
        exact unchanged.symm
      · exact if_pos rfl
    · rw [Tree.get?_put_of_ne _ object' same] at found''
      rw [← agrees other object'' found'']
      unfold news
      split
      · rfl
      · exact if_neg same
  · intro view agrees
    unfold news
    split
    · trivial
    · rename_i changed
      refine ⟨?_, trivial⟩
      intro known
      rw [agrees id object found] at known
      exact absurd known.symm changed
  · rw [did]
    exact fun _ mem => absurd mem List.not_mem_nil
  · rw [pending]
    exact fun idle => idle

theorem Logged.own {id : ObjectId} {object object' : ManagedObject} (did : List Trace)
    (said : List Primitive) (found : site.tree.get? id = some object)
    (tree : site'.tree = site.tree.put id object')
    (outputs : site'.outputs = site.outputs ++ said ++ news id object.published object'.published)
    (trace : site'.trace = site.trace ++ did)
    (noReports : Entry.noReports said = true)
    (rousing : ∀ id, Trace.dispatched id .omlUp ∈ did → roused)
    (waiting : (∀ waiting ∈ site.pending, waiting.event ≠ .omlUp) →
      ∀ waiting ∈ site'.pending, waiting.event ≠ .omlUp) :
    ∃ log, Logged roused site log site' := by
  let middle : Site :=
    { site' with tree := site.tree, outputs := site.outputs ++ said }
  have first : Logged roused site _ middle :=
    Logged.plain did said rfl rfl trace noReports rousing waiting
  have last : Logged roused middle _ site' := Logged.put roused found tree outputs rfl rfl
  exact ⟨_, first.trans last⟩

theorem Logged.repeat {id : ObjectId} {object : ManagedObject} (isUp : roused)
    (found : site.tree.get? id = some object) :
    Logged roused site
      [.did (.dispatched id .omlUp), .said (.report (.stateChanged id object.published))]
      ((site.record (.dispatched id .omlUp)).report (.stateChanged id object.published)) := by
  refine ⟨rfl, rfl, ?_, ?_, fun _ _ => isUp, fun idle => idle⟩
  · intro view agrees other object' found'
    rw [seen_eq_replay]
    by_cases same : id = other
    · subst same
      cases found.symm.trans found'
      exact if_pos rfl
    · refine (if_neg same).trans ?_
      exact agrees other object' found'
  · intro view agrees
    exact ⟨trivial, fun _ => rfl, trivial⟩

end logged

end BaseStation.Management

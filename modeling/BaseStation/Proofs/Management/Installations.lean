import BaseStation.Proofs.Management.Dealings
import BaseStation.Proofs.Management.Published

namespace BaseStation

open Management

def ObjectState.Fits (state : ObjectState) (phase : Phase) : Prop :=
  (state.operational, state.availability) = phase.state

theorem ObjectState.Fits.notInstalled_iff {state : ObjectState} {phase : Phase} (fits : state.Fits phase) :
    state.availability = .notInstalled ↔ phase = .notInstalled := by
  have availability : state.availability = phase.state.2 := congrArg Prod.snd fits
  rw [availability]
  cases phase <;> decide

namespace Management

namespace Entry

def Concerns (id : ObjectId) : Entry → Prop
  | did (.moved other _ _) => other = id
  | said (.report (.softwareActivated other)) | said (.report (.stateChanged other _)) => other = id
  | _ => False

def Uninstalls (id : ObjectId) : Entry → Prop
  | did (.moved other _ target) => other = id ∧ target = .notInstalled
  | said (.report (.stateChanged other state)) => other = id ∧ state.availability = .notInstalled
  | _ => False

def phase (id : ObjectId) (before : Phase) : Entry → Phase
  | did (.moved other _ target) => if other = id then target else before
  | _ => before

theorem IsOf.concerns {id other : ObjectId} {entry : Entry} (own : entry.IsOf id)
    (concerns : entry.Concerns other) : other = id := by
  unfold Concerns at concerns
  split at concerns
  · exact concerns.symm.trans own
  · exact concerns.symm.trans own
  · exact concerns.symm.trans own
  · cases concerns

theorem Uninstalls.concerns {id : ObjectId} {entry : Entry} (uninstalls : entry.Uninstalls id) :
    entry.Concerns id := by
  unfold Uninstalls at uninstalls
  split at uninstalls
  · exact uninstalls.1
  · exact uninstalls.1
  · cases uninstalls

theorem phase_of_apart {id : ObjectId} {entry : Entry} (apart : ¬ entry.Concerns id) (before : Phase) :
    entry.phase id before = before := by
  unfold phase
  split
  · exact if_neg apart
  · rfl

end Entry

theorem split_of_primitives {log : List Entry} {primitive : Primitive} {before after : List Primitive}
    (split : primitives log = before ++ primitive :: after) :
    ∃ earlier later, log = earlier ++ .said primitive :: later ∧ primitives earlier = before ∧
      primitives later = after := by
  obtain ⟨first, last, rfl, told, rest⟩ := List.filterMap_eq_append_iff.mp split
  obtain ⟨silent, entry, later, rfl, unsaid, said, rest⟩ := List.filterMap_eq_cons_iff.mp rest
  have said : primitives silent = [] := List.filterMap_eq_nil_iff.mpr unsaid
  have entry : entry = .said primitive := by
    cases entry <;> cases said
    rfl
  refine ⟨first ++ silent, later, ?_, ?_, rest⟩
  · rw [entry, List.append_assoc]
  · rw [primitives_append, said, List.append_nil]
    exact told

def phaseAfter (id : ObjectId) (phase : Phase) (log : List Entry) : Phase := log.foldl (Entry.phase id) phase

/-- The object announced that it is installed, and nothing in the log is against it since. -/
def Announced (id : ObjectId) (log : List Entry) : Prop :=
  ∃ earlier later, log = earlier ++ .said (.report (.softwareActivated id)) :: later ∧
    ∀ entry ∈ later, ¬ entry.Uninstalls id

theorem Announced.cons {id : ObjectId} {log : List Entry} (announced : Announced id log) (entry : Entry) :
    Announced id (entry :: log) := by
  obtain ⟨earlier, later, rfl, stays⟩ := announced
  exact ⟨entry :: earlier, later, rfl, stays⟩

/-- What a log tells of the phases of an object, from one phase to another: what it reports fits the phase
that it is in, and it announces that it is installed as it comes to be. -/
inductive Chronicle (id : ObjectId) : Phase → List Entry → Phase → Prop
  | done (phase : Phase) : Chronicle id phase [] phase
  | beside {phase phase' : Phase} {entry : Entry} {log : List Entry} (apart : ¬ entry.Concerns id)
      (rest : Chronicle id phase log phase') : Chronicle id phase (entry :: log) phase'
  | reports {phase phase' : Phase} {state : ObjectState} {log : List Entry} (fits : state.Fits phase)
      (rest : Chronicle id phase log phase') :
      Chronicle id phase (.said (.report (.stateChanged id state)) :: log) phase'
  | moves {phase target phase' : Phase} {log : List Entry}
      (stays : phase = .notInstalled → target = .notInstalled) (rest : Chronicle id target log phase') :
      Chronicle id phase (.did (.moved id phase target) :: log) phase'
  | installs {target phase' : Phase} {state : ObjectState} {log : List Entry}
      (leaves : target ≠ .notInstalled) (fits : state.Fits target) (rest : Chronicle id target log phase') :
      Chronicle id .notInstalled (.said (.report (.softwareActivated id)) ::
        .did (.moved id .notInstalled target) :: .said (.report (.stateChanged id state)) :: log) phase'

namespace Chronicle

variable {id : ObjectId} {phase middle phase' : Phase} {log log' before after : List Entry}

theorem append (first : Chronicle id phase log middle) (last : Chronicle id middle log' phase') :
    Chronicle id phase (log ++ log') phase' := by
  induction first with
  | done => exact last
  | beside apart _ ih => exact .beside apart (ih last)
  | reports fits _ ih => exact .reports fits (ih last)
  | moves stays _ ih => exact .moves stays (ih last)
  | installs leaves fits _ ih => exact .installs leaves fits (ih last)

theorem apart (phase : Phase) (apart : ∀ entry ∈ log, ¬ entry.Concerns id) :
    Chronicle id phase log phase := by
  induction log with
  | nil => exact .done phase
  | cons entry log ih =>
    obtain ⟨first, rest⟩ := List.forall_mem_cons.mp apart
    exact .beside first (ih rest)

theorem phaseAfter_eq (chronicle : Chronicle id phase log phase') : phaseAfter id phase log = phase' := by
  induction chronicle with
  | done => rfl
  | beside apart _ ih => rw [phaseAfter, List.foldl_cons, Entry.phase_of_apart apart, ← ih, phaseAfter]
  | reports _ _ ih => exact ih
  | moves _ _ ih | installs _ _ _ ih => simpa [phaseAfter, Entry.phase] using ih

inductive Place (id : ObjectId) (phase : Phase) (before : List Entry) (phase' : Phase) :
    Entry → List Entry → Prop
  | between {middle : Phase} {entry : Entry} {after : List Entry} (first : Chronicle id phase before middle)
      (last : Chronicle id middle (entry :: after) phase') : Place id phase before phase' entry after
  | arriving {target : Phase} {state : ObjectState} {earlier after : List Entry}
      (first : Chronicle id phase earlier .notInstalled)
      (announced : before = earlier ++ [.said (.report (.softwareActivated id))])
      (leaves : target ≠ .notInstalled) (fits : state.Fits target) :
      Place id phase before phase' (.did (.moved id .notInstalled target))
        (.said (.report (.stateChanged id state)) :: after)
  | telling {target : Phase} {state : ObjectState} {earlier after : List Entry}
      (first : Chronicle id phase earlier .notInstalled)
      (announced : before = earlier ++ [.said (.report (.softwareActivated id)),
        .did (.moved id .notInstalled target)])
      (leaves : target ≠ .notInstalled) :
      Place id phase before phase' (.said (.report (.stateChanged id state))) after

theorem Place.beyond {first : List Entry} {entry : Entry} (chronicle : Chronicle id phase first middle)
    (place : Place id middle before phase' entry after) :
    Place id phase (first ++ before) phase' entry after := by
  cases place with
  | between before last => exact .between (chronicle.append before) last
  | arriving earlier announced leaves fits =>
    refine .arriving (chronicle.append earlier) ?_ leaves fits
    rw [announced, List.append_assoc]
  | telling earlier announced leaves =>
    refine .telling (chronicle.append earlier) ?_ leaves
    rw [announced, List.append_assoc]

theorem place_cons {first entry : Entry} (own : Chronicle id phase [first] middle)
    (rest : Chronicle id middle log phase')
    (places : ∀ {before}, log = before ++ entry :: after → Place id middle before phase' entry after)
    (split : first :: log = before ++ entry :: after) : Place id phase before phase' entry after := by
  cases before with
  | nil =>
    cases split
    exact .between (.done _) (own.append rest)
  | cons _ before =>
    cases split
    exact (places rfl).beyond own

theorem place {entry : Entry} (chronicle : Chronicle id phase log phase')
    (split : log = before ++ entry :: after) : Place id phase before phase' entry after := by
  induction chronicle generalizing before with
  | done => exact absurd split (by simp)
  | beside apart rest ih => exact place_cons (.beside apart (.done _)) rest ih split
  | reports fits rest ih => exact place_cons (.reports fits (.done _)) rest ih split
  | moves stays rest ih => exact place_cons (.moves stays (.done _)) rest ih split
  | installs leaves fits rest ih =>
    -- three entries at once, and the entry is one of them or comes after
    rcases before with _ | ⟨_, _ | ⟨_, _ | ⟨_, before⟩⟩⟩ <;> cases split
    · exact .between (.done _) (.installs leaves fits rest)
    · exact .arriving (.done _) (List.nil_append _).symm leaves fits
    · exact .telling (.done _) (List.nil_append _).symm leaves
    · exact (ih rfl).beyond (.installs leaves fits (.done _))

/-- An object that is installed at the end announced it after it last was not, unless it always was. -/
theorem since (chronicle : Chronicle id phase log phase') (installed : phase' ≠ .notInstalled) :
    (phase ≠ .notInstalled ∧ ∀ entry ∈ log, ¬ entry.Uninstalls id) ∨ Announced id log := by
  induction chronicle with
  | done => exact .inl ⟨installed, fun _ mem => absurd mem List.not_mem_nil⟩
  | beside apart _ ih =>
    rcases ih installed with ⟨before, stays⟩ | announced
    · exact .inl ⟨before, List.forall_mem_cons.mpr ⟨fun uninstalls => apart uninstalls.concerns, stays⟩⟩
    · exact .inr (announced.cons _)
  | reports fits _ ih =>
    rcases ih installed with ⟨before, stays⟩ | announced
    · have installed : ¬ (Entry.said (.report (.stateChanged id _))).Uninstalls id :=
        fun told => before (fits.notInstalled_iff.mp told.2)
      exact .inl ⟨before, List.forall_mem_cons.mpr ⟨installed, stays⟩⟩
    · exact .inr (announced.cons _)
  | moves still _ ih =>
    rcases ih installed with ⟨before, stays⟩ | announced
    · exact .inl ⟨fun uninstalled => before (still uninstalled),
        List.forall_mem_cons.mpr ⟨fun moved => before moved.2, stays⟩⟩
    · exact .inr (announced.cons _)
  | installs leaves fits _ ih =>
    rcases ih installed with ⟨_, stays⟩ | announced
    · refine .inr ⟨[], _, rfl, List.forall_mem_cons.mpr ⟨fun moved => leaves moved.2, ?_⟩⟩
      exact List.forall_mem_cons.mpr ⟨fun told => leaves (fits.notInstalled_iff.mp told.2), stays⟩
    · exact .inr (((announced.cons _).cons _).cons _)

end Chronicle

/-- What a log tells of the phases of an object that was not installed before. Whenever it comes to be, it
announces so just before and reports its state right after, and announces nothing else. It reports no state
but that it is not installed unless it announced that it is since it last was not. -/
structure Announces (id : ObjectId) (log : List Entry) : Prop where
  moves : ∀ before source target after, log = before ++ .did (.moved id source target) :: after →
    source = phaseAfter id .notInstalled before
  announced : ∀ before target after, log = before ++ .did (.moved id .notInstalled target) :: after →
    target ≠ .notInstalled → ∃ earlier state later,
      before = earlier ++ [.said (.report (.softwareActivated id))] ∧
        after = .said (.report (.stateChanged id state)) :: later ∧ state.Fits target
  only : ∀ before after, log = before ++ .said (.report (.softwareActivated id)) :: after →
    ∃ target later, after = .did (.moved id .notInstalled target) :: later ∧ target ≠ .notInstalled
  since : ∀ before state after, log = before ++ .said (.report (.stateChanged id state)) :: after →
    state.availability ≠ .notInstalled → Announced id before

theorem Chronicle.announces {id : ObjectId} {phase : Phase} {log : List Entry}
    (chronicle : Chronicle id .notInstalled log phase) : Announces id log where
  moves before source target after split := by
    cases chronicle.place split with
    | between first last =>
      rw [first.phaseAfter_eq]
      cases last with
      | beside apart _ => exact absurd rfl apart
      | moves _ _ => rfl
    | arriving first announced _ _ =>
      rw [announced, phaseAfter, List.foldl_append]
      exact first.phaseAfter_eq.symm
  announced before target after split leaves := by
    cases chronicle.place split with
    | between _ last =>
      cases last with
      | beside apart _ => exact absurd rfl apart
      | moves stays _ => exact absurd (stays rfl) leaves
    | arriving _ announced _ fits => exact ⟨_, _, _, announced, rfl, fits⟩
  only before after split := by
    cases chronicle.place split with
    | between _ last =>
      cases last with
      | beside apart _ => exact absurd rfl apart
      | installs leaves _ _ => exact ⟨_, _, rfl, leaves⟩
  since before state after split installed := by
    cases chronicle.place split with
    | between first last =>
      cases last with
      | beside apart _ => exact absurd rfl apart
      | reports fits _ =>
        have up := fun uninstalled => installed (fits.notInstalled_iff.mpr uninstalled)
        exact (first.since up).resolve_left fun always => always.1 rfl
    | telling _ announced leaves =>
      exact ⟨_, _, announced, List.forall_mem_singleton.mpr fun moved => leaves moved.2⟩

section deeds

variable {about : ObjectId → Prop} {may : ObjectId → ManagedObject → Prop} {id : ObjectId}
  {object object' : ManagedObject} {log : List Entry} {raised : List PendingEvent} {site site' : Site}

theorem fits_of_matches (fits : object.Matches) : object.published.Fits object.phase :=
  ManagedObject.matches_iff.mp fits

theorem Deed.matches (deed : Deed may id object object' log raised) (fits : object.Matches) :
    object'.Matches := by
  have own := ManagedObject.matches_iff.mp fits
  cases deed with
  | starts _ _ _ | moves _ _ _ _ | installs _ _ _ _ => exact .entered id.objectClass _ _
  | _ => exact ManagedObject.matches_iff.mpr own

theorem chronicle_news {phase : Phase} {state : ObjectState} (fits : state.Fits phase)
    (before : ObjectState) :
    Chronicle id phase ((news id before state).map .said) phase := by
  unfold news
  split
  · exact .done phase
  · exact .reports fits (.done phase)

theorem released_of_ne {target : Phase} (up : target ≠ .notInstalled) : released id target = [] := by
  unfold released
  split
  · exact absurd rfl up
  · rfl

theorem not_concerns_released (id : ObjectId) (target : Phase) :
    ∀ entry ∈ (released id target).map Entry.said, ¬ entry.Concerns id := by
  unfold released
  split
  · exact List.forall_mem_singleton.mpr fun concerns => concerns
  · exact fun _ mem => absurd mem List.not_mem_nil

theorem chronicle_arrival {target : Phase} (stays : object.phase = .notInstalled → target = .notInstalled) :
    Chronicle id object.phase (arrival id object target) target := by
  have fits : (enteredState target object.published).Fits target :=
    fits_of_matches (.entered id.objectClass target object)
  have told := (Chronicle.apart target (not_concerns_released id target)).append
    (chronicle_news fits object.published)
  rw [← List.map_append] at told
  exact .moves stays told

theorem chronicle_installation {target : Phase} (fits : object.Matches)
    (uninstalled : object.phase = .notInstalled) (leaves : target ≠ .notInstalled) :
    Chronicle id object.phase (.said (.report (.softwareActivated id)) :: arrival id object target)
      target := by
  have entered : (enteredState target object.published).Fits target :=
    fits_of_matches (.entered id.objectClass target object)
  have changes : enteredState target object.published ≠ object.published := by
    intro same
    rw [same] at entered
    have absent := (fits_of_matches fits).notInstalled_iff.mpr uninstalled
    exact leaves (entered.notInstalled_iff.mp absent)
  rw [arrival, uninstalled, released_of_ne leaves, news, if_neg changes]
  exact .installs leaves entered (.done target)

theorem Deed.chronicle (deed : Deed may id object object' log raised) (fits : object.Matches) :
    Chronicle id object.phase log object'.phase := by
  have own := fits_of_matches fits
  cases deed with
  | administers admin =>
    have told : (updated object.published none none (some admin)).Fits object.phase := own
    exact chronicle_news told object.published
  | repeats => exact .reports own (.done _)
  | asks _ _ _ => exact .done _
  | starts _ accepted _ =>
    refine .beside (by rintro ⟨⟩) (chronicle_arrival fun uninstalled => ?_)
    exact absurd uninstalled (Machine.installed_of_opstartAck accepted)
  | moves target mayMove stays enables => exact chronicle_arrival stays
  | installs target mayMove uninstalled leaves => exact chronicle_installation fits uninstalled leaves
  | _ => exact .beside (by rintro ⟨⟩) (.done _)

/-- What was recorded and said meanwhile, in one log, is a chronicle of every object. -/
structure Chronicled (site site' : Site) : Prop where
  fits : site.tree.Matches → site'.tree.Matches
  told : site.tree.Matches → ∃ log, site'.outputs = site.outputs ++ primitives log ∧
    site'.trace = site.trace ++ traces log ∧ ∀ id object', site'.tree.get? id = some object' →
      ∃ object, site.tree.get? id = some object ∧ Chronicle id object.phase log object'.phase

theorem chronicled_chains : Chains Chronicled where
  refl site := by
    refine ⟨fun fits => fits, fun _ => ⟨[], (List.append_nil _).symm, (List.append_nil _).symm, ?_⟩⟩
    exact fun id object found => ⟨object, found, .done _⟩
  trans := by
    intro site middle site' first last
    refine ⟨fun fits => last.fits (first.fits fits), fun fits => ?_⟩
    obtain ⟨log, outputs, trace, told⟩ := first.told fits
    obtain ⟨log', outputs', trace', told'⟩ := last.told (first.fits fits)
    refine ⟨log ++ log', ?_, ?_, fun id object' found => ?_⟩
    · rw [outputs', outputs, primitives_append, List.append_assoc]
    · rw [trace', trace, traces_append, List.append_assoc]
    · obtain ⟨middle, place, after⟩ := told' id object' found
      obtain ⟨object, place', before⟩ := told id middle place
      exact ⟨object, place', before.append after⟩

theorem Act.chronicled (act : Act about may site site') : Chronicled site site' := by
  cases act with
  | beside tree outputs trace _ =>
    refine ⟨fun fits => tree ▸ fits, fun _ => ⟨[], ?_, ?_, fun id object found => ?_⟩⟩
    · rw [outputs, primitives, List.filterMap_nil, List.append_nil]
    · rw [trace, traces, List.filterMap_nil, List.append_nil]
    · rw [tree] at found
      exact ⟨object, found, .done _⟩
  | @deed id object object' log raised _ found deed tree outputs trace _ =>
    refine ⟨fun fits => ?_, fun fits => ⟨log, outputs, trace, fun other now place => ?_⟩⟩
    · rw [tree]
      exact fits.put id (deed.matches (fits id object found))
    · rw [tree] at place
      by_cases same : id = other
      · subst same
        rw [Tree.get?_put_self _ found] at place
        cases place
        exact ⟨object, found, deed.chronicle (fits id object found)⟩
      · rw [Tree.get?_put_of_ne _ _ same] at place
        refine ⟨now, place, .apart _ fun entry mem concerns => same ?_⟩
        exact ((deed.isOf entry mem).concerns concerns).symm

end deeds

end Management

namespace Manager

variable {start manager : Manager} {flags : LinkFlags} {effect : Effect Manager} {sent : List Primitive}

/-- What a manager does about a message, and what it sends, in one log. -/
theorem receive_chronicled {message : Message} (fits : manager.tree.Matches)
    (received : manager.receive flags message = .ok effect) :
    ∃ log, primitives log = effect.sent.map (·.primitive) ∧ effect.state.tracing = manager.tracing ∧
      (manager.tracing = true → effect.state.trace = manager.trace ++ traces log) ∧
      ∀ id object', effect.state.tree.get? id = some object' →
        ∃ object, manager.tree.get? id = some object ∧ Chronicle id object.phase log object'.phase := by
  cases receive_deals closed_all (fun _ _ => trivial) received with
  | ignores same silent =>
    rw [same, silent]
    exact ⟨[], rfl, rfl, fun _ => (List.append_nil _).symm, fun id object found => ⟨object, found, .done _⟩⟩
  | @refuses id procedure _ _ same refused =>
    rw [same, refused]
    refine ⟨[.said (.report (.nack id procedure .objInstanceUnknown))], rfl, rfl, ?_, ?_⟩
    · exact fun _ => (List.append_nil _).symm
    · exact fun id object found => ⟨object, found, .beside (fun concerns => concerns) (.done _)⟩
  | acts deeds leaves =>
    have chronicled := deeds.brings chronicled_chains fun _ _ act => act.chronicled
    have relinked : (manager.tree.relinked message.primitive).Matches :=
      fits.congr (Tree.get?_relinked manager.tree message.primitive)
    obtain ⟨log, outputs, trace, told⟩ := chronicled.told relinked
    refine ⟨log, ?_, leaves.tracing, fun traced => ?_, fun id object' found => ?_⟩
    · rw [leaves.sent, outputs]
      rfl
    · rw [leaves.trace, if_pos traced, trace]
      rfl
    · rw [leaves.tree] at found
      obtain ⟨object, place, chronicle⟩ := told id object' found
      have place : (manager.tree.relinked message.primitive).get? id = some object := place
      rw [Tree.get?_relinked] at place
      exact ⟨object, place, chronicle⟩

theorem Run.chronicled (fresh : Fresh start) (run : Run start sent manager) :
    ∃ log, primitives log = sent ∧ (manager.tracing = true → manager.trace = traces log) ∧
      ∀ id object, manager.tree.get? id = some object → Chronicle id .notInstalled log object.phase := by
  have fits : start.tree.Matches := by
    obtain ⟨config, hardware, tracing, rfl⟩ := fresh
    exact Tree.Matches.fresh _ _ _
  induction run with
  | start =>
    obtain ⟨config, hardware, tracing, rfl⟩ := fresh
    refine ⟨[], rfl, fun _ => rfl, fun id object found => ?_⟩
    cases Tree.get?_fresh found
    exact .done _
  | receive flags message before received ih =>
    obtain ⟨log, said, trace, told⟩ := ih
    obtain ⟨log', said', tracing, trace', told'⟩ := receive_chronicled (before.fits fits) received
    refine ⟨log ++ log', ?_, fun traced => ?_, fun id object' found => ?_⟩
    · rw [primitives_append, said, said']
    · rw [tracing] at traced
      rw [trace' traced, trace traced, traces_append]
    · obtain ⟨object, place, after⟩ := told' id object' found
      exact (told id object place).append after

/-- In every run the BSC is told of every installation of every object. What is done and what is sent make up
one log, in which each object announces just before it is installed that it is, reports its state right after,
and announces nothing else. So the BSC is never sent another state of an object than that it is not installed,
unless it was sent an announcement since it was last sent that state. -/
theorem Run.installations_announced (fresh : Fresh start) (run : Run start sent manager) :
    ∃ log, primitives log = sent ∧ (manager.tracing = true → manager.trace = traces log) ∧
      ∀ id object, manager.tree.get? id = some object →
        Announces id log ∧ phaseAfter id .notInstalled log = object.phase ∧
        ∀ before state after, sent = before ++ .report (.stateChanged id state) :: after →
          state.availability ≠ .notInstalled → ∃ earlier later,
            before = earlier ++ .report (.softwareActivated id) :: later ∧
              ∀ state', .report (.stateChanged id state') ∈ later → state'.availability ≠ .notInstalled := by
  obtain ⟨log, said, trace, told⟩ := run.chronicled fresh
  refine ⟨log, said, trace, fun id object found => ?_⟩
  have chronicle := told id object found
  refine ⟨chronicle.announces, chronicle.phaseAfter_eq, fun before state after split installed => ?_⟩
  rw [← said] at split
  obtain ⟨first, _, logged, rfl, _⟩ := split_of_primitives split
  obtain ⟨earlier, later, rfl, stays⟩ := chronicle.announces.since first state _ logged installed
  refine ⟨primitives earlier, primitives later, by simp, fun state' mem uninstalled => ?_⟩
  exact stays _ (said_of_mem_primitives mem) ⟨rfl, uninstalled⟩

set_option maxRecDepth 2000 in
theorem Run.installations_announced_again : ∃ sent manager root log,
    Run { ofConfig (.ofHosts ["bsc"]) (.fresh 1) with tracing := true } sent manager ∧
      manager.tree.get? .siteManager = some root ∧ primitives log = sent ∧ manager.trace = traces log ∧
      Announces .siteManager log ∧ phaseAfter .siteManager .notInstalled log = .offline ∧
      manager.trace.count (.moved .siteManager .notInstalled .offline) = 2 ∧
      sent.count (.report (.softwareActivated .siteManager)) = 2 := by
  let traced : Manager := { ofConfig (.ofHosts ["bsc"]) (.fresh 1) with tracing := true }
  have steps : ∃ effect, traced.receive .initial (.ofPrimitive ⟨0⟩ (.link .omlLinkUp)) = .ok effect ∧
      ∃ effect', effect.state.receive .initial (.ofPrimitive ⟨0⟩ (.link .abisLinkFailed)) = .ok effect' ∧
      ∃ effect'', effect'.state.receive .initial (.ofPrimitive ⟨0⟩ (.link .omlLinkUp)) = .ok effect'' ∧
      ∃ root, effect''.state.tree.get? .siteManager = some root ∧ root.phase = .offline ∧
        effect''.state.tracing = true ∧
        effect''.state.trace.count (.moved .siteManager .notInstalled .offline) = 2 ∧
        ([] ++ effect.sent.map Message.primitive ++ effect'.sent.map Message.primitive ++
          effect''.sent.map Message.primitive).count (Primitive.report (.softwareActivated .siteManager)) =
            2 :=
    ⟨_, rfl, _, rfl, _, rfl, _, rfl, rfl, rfl, by decide +kernel, by decide +kernel⟩
  obtain ⟨_, first, _, second, effect, third, root, found, back, tracing, installed, announced⟩ := steps
  have run := Run.receive _ _ (.receive _ _ (.receive _ _ .start first) second) third
  have fresh : Fresh traced := ⟨_, _, true, rfl⟩
  obtain ⟨log, said, trace, told⟩ := run.installations_announced fresh
  obtain ⟨announces, ends, _⟩ := told .siteManager root found
  exact ⟨_, effect.state, root, log, run, found, said, trace tracing, announces, ends.trans back, installed,
    announced⟩

end Manager

end BaseStation

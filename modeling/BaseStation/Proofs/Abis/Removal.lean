import BaseStation.Proofs.Abis.Attempts

namespace BaseStation.Abis

namespace Link

/-- The place of the next host, if there is one, is a place of the list. -/
def Aimed (link : Link) : Prop := ∀ place, link.next = some place → place < link.hosts.length

variable {link link' taken : Link} {config : AbisConfig} {numTrx : Nat} {host : String}
  {before behind : List String}

theorem Aimed.ofConfig (made : Link.ofConfig config numTrx = .ok link) : link.Aimed := by
  unfold Link.ofConfig at made
  split at made
  · cases made
  · rename_i hosts
    cases made
    rintro place ⟨⟩
    exact List.length_pos_iff.mpr hosts

theorem Aimed.congr (aimed : link.Aimed) (hosts : link'.hosts = link.hosts) (next : link'.next = link.next) :
    link'.Aimed := by
  intro place same
  rw [hosts]
  exact aimed place (next ▸ same)

theorem placeAfter_lt {place after : Nat} (same : link.placeAfter place = some after) :
    after < link.hosts.length := by
  unfold placeAfter at same
  split at same
  · rename_i bound
    cases same
    exact bound
  · cases same

theorem aimed_of_takeHost (takes : link.takeHost = some (host, taken)) : taken.Aimed := by
  obtain ⟨place, _, _, rfl⟩ := takeHost_eq_some.mp takes
  exact fun after same => placeAfter_lt same

theorem findIdx?_absent {hosts : List String} (absent : host ∉ hosts) :
    hosts.findIdx? (· == host) = none := by
  rw [List.findIdx?_eq_none_iff]
  intro other mem
  exact beq_eq_false_iff_ne.mpr fun same => absent (same ▸ mem)

theorem findIdx?_first (first : host ∉ before) :
    (before ++ host :: behind).findIdx? (· == host) = some before.length := by
  rw [List.findIdx?_append, findIdx?_absent first, List.findIdx?_cons]
  simp

theorem removeHost_absent (absent : host ∉ link.hosts) : link.removeHost host = (false, link) := by
  rw [removeHost, findIdx?_absent absent]

theorem removeHost_first (hosts : link.hosts = before ++ host :: behind) (first : host ∉ before) :
    link.removeHost host =
      (true, { link with hosts := before ++ behind, next := link.placeWithout before.length }) := by
  have place : link.hosts.findIdx? (· == host) = some before.length := by rw [hosts, findIdx?_first first]
  have rest : link.hosts.eraseIdx before.length = before ++ behind := by
    rw [hosts, List.eraseIdx_append_of_length_le (Nat.le_refl _), Nat.sub_self, List.eraseIdx_cons_zero]
  rw [removeHost, place]
  simp only [rest]

/-- The place stays with its entry, which moves up by one if the entry that goes is before it. -/
theorem placeWithout_other {gone : Nat} (other : link.next ≠ some gone) :
    link.placeWithout gone = link.next.map fun place => if gone < place then place - 1 else place := by
  unfold placeWithout
  cases next : link.next with
  | none => rfl
  | some place =>
    have apart : place ≠ gone := fun same => other (by rw [next, same])
    by_cases behind : gone < place <;> simp [apart, behind]

theorem placeWithout_next (hosts : link.hosts = before ++ host :: behind)
    (next : link.next = some before.length) :
    link.placeWithout before.length =
      if behind ≠ [] then some before.length
      else if before ≠ [] then some (before.length - 1)
      else none := by
  simp only [placeWithout, next, hosts, List.length_append, List.length_cons, if_true]
  cases behind with
  | nil => cases before <;> simp
  | cons successor rest =>
    simp only [List.length_cons]
    rw [if_neg (by omega), if_neg (by omega), if_pos (List.cons_ne_nil _ _)]

theorem getElem?_without {place : Nat} (other : place ≠ before.length) :
    (before ++ behind)[if before.length < place then place - 1 else place]? =
      (before ++ host :: behind)[place]? := by
  by_cases after : before.length < place
  · obtain ⟨offset, rfl⟩ := Nat.exists_eq_add_of_lt after
    have shorter : before.length + offset + 1 - 1 - before.length = offset := by omega
    have shifted : before.length + offset + 1 - before.length = offset + 1 := by omega
    rw [if_pos after, List.getElem?_append_right (by omega), List.getElem?_append_right (by omega), shorter,
      shifted, List.getElem?_cons_succ]
  · have early : place < before.length := by omega
    rw [if_neg after, List.getElem?_append_left early, List.getElem?_append_left early]

theorem getElem?_beside :
    ((if behind ≠ [] then some before.length
      else if before ≠ [] then some (before.length - 1)
      else none).bind ((before ++ behind)[·]?)) = behind.head?.or before.getLast? := by
  cases behind with
  | nil =>
    cases before with
    | nil => rfl
    | cons host before => simp [List.getLast?_eq_getElem?]
  | cons successor rest => simp

/-- How the first host of a name goes off the list of a link, from between those `before` and `behind`. -/
structure Drops (link : Link) (before : List String) (host : String) (behind : List String) : Prop where
  removed : ∃ next, link.removeHost host = (true, { link with hosts := before ++ behind, next := next })
  /-- The next host stays next, at the place that is its own now; an exhausted list stays exhausted. -/
  other : link.next ≠ some before.length →
    (link.removeHost host).2.nextHost? = link.nextHost? ∧
      (link.removeHost host).2.next =
        link.next.map fun place => if before.length < place then place - 1 else place
  /-- Once the next host goes, it is the one behind, or else the one before, or else none. -/
  next : link.next = some before.length →
    (link.removeHost host).2.nextHost? = behind.head?.or before.getLast? ∧
      (link.removeHost host).2.next =
        if behind ≠ [] then some before.length
        else if before ≠ [] then some (before.length - 1)
        else none

theorem drops (hosts : link.hosts = before ++ host :: behind) (first : host ∉ before) :
    link.Drops before host behind := by
  have removed := removeHost_first hosts first
  refine ⟨⟨_, removed⟩, fun other => ?_, fun next => ?_⟩
  · have place := placeWithout_other other
    rw [removed]
    refine ⟨?_, place⟩
    simp only [nextHost?, place, hosts]
    cases next : link.next with
    | none => rfl
    | some place =>
      have apart : place ≠ before.length := fun same => other (by rw [next, same])
      exact getElem?_without apart
  · have place := placeWithout_next hosts next
    rw [removed]
    refine ⟨?_, place⟩
    simp only [nextHost?, place]
    exact getElem?_beside

theorem Aimed.removeHost (aimed : link.Aimed) (host : String) : (link.removeHost host).2.Aimed := by
  by_cases mem : host ∈ link.hosts
  · obtain ⟨before, behind, hosts, first⟩ := List.eq_append_cons_of_mem mem
    have dropped := drops hosts first
    obtain ⟨next, removed⟩ := dropped.removed
    intro place same
    have length : (link.removeHost host).2.hosts.length = before.length + behind.length := by
      rw [removed, List.length_append]
    rw [length]
    by_cases next : link.next = some before.length
    · have passed := (dropped.next next).2.symm.trans same
      cases behind with
      | cons successor rest =>
        cases passed
        simp
      | nil =>
        cases before with
        | nil => cases passed
        | cons host before =>
          cases passed
          simp
    · have stayed := (dropped.other next).2.symm.trans same
      obtain ⟨old, held, moved⟩ := Option.map_eq_some_iff.mp stayed
      have bound := aimed old held
      have apart : old ≠ before.length := fun same => next (by rw [held, same])
      rw [hosts, List.length_append, List.length_cons] at bound
      split at moved <;> omega
  · rw [removeHost_absent mem]
    exact aimed

/-- The list of a link and the host that is next on it, whatever host goes off the list. -/
structure Removes (link : Link) : Prop where
  aimed : link.Aimed
  absent : ∀ host ∉ link.hosts, link.removeHost host = (false, link)
  first : ∀ before host behind, link.hosts = before ++ host :: behind → host ∉ before →
    link.Drops before host behind

end Link

variable {now : Nat} {link link' : Link} {acts : List Happening} {notices : List Notice}

theorem Polls.aimed (polls : Polls now link acts notices link') (aimed : link.Aimed) : link'.Aimed := by
  cases polls with
  | idle early away => exact aimed
  | hears early connected hears => exact aimed.congr hears.resumes.hosts hears.resumes.next
  | exhausted due spent => exact aimed
  | refused due takes => exact (Link.aimed_of_takeHost takes).congr rfl rfl
  | connects due takes hears =>
    exact (Link.aimed_of_takeHost takes).congr hears.resumes.hosts hears.resumes.next

theorem Course.aimed {τ : Type} [Transport τ] {config : AbisConfig} {numTrx : Nat} {removed : List String}
    {started : Bool} {history : List (Nat × Happening)}
    (course : Course τ config numTrx removed started history link) : link.Aimed := by
  induction course with
  | make made => exact .ofConfig made
  | start now course ih => exact ih
  | poll now transport course polled ih => exact (polls_of_polled course.sound polled).aimed ih
  | remove host course ih => exact ih.removeHost host

/-- However a link was polled and lost hosts before, the place of its next host is one of its list. A host
that is not on the list changes nothing, and of a host that is the first entry goes. The next host stays
next, unless it is the one that goes: then the host behind it is, or the one before if it was the last. -/
theorem Course.removes (τ : Type) [Transport τ] (config : AbisConfig) (numTrx : Nat) (removed : List String)
    (started : Bool) (history : List (Nat × Happening)) (link : Link)
    (course : Course τ config numTrx removed started history link) : link.Removes :=
  ⟨course.aimed, fun _ absent => Link.removeHost_absent absent,
    fun _ _ _ hosts first => Link.drops hosts first⟩

def firstTry : List (Nat × Happening) := [(0, .dialled "main" true), (0, .heard .down), (0, .closed)]

theorem Course.removes_twice : ∃ link : Link, link.hosts = ["spare", "main"] ∧ link.next = some 0 ∧
    Course ScriptedTransport (.ofHosts ["main", "spare", "main"]) 1 ["main"] true firstTry link ∧
      link.Removes := by
  let link : Link := ⟨["main", "spare", "main"], 3002, 1000, .connecting, some 0, 0, none, false, [false]⟩
  have made : Link.ofConfig (.ofHosts ["main", "spare", "main"]) 1 = .ok link := rfl
  have started : Course ScriptedTransport _ 1 [] true [] (link.start 0) := (Course.make made).start 0
  let dropping : ScriptedTransport := ⟨[.down], false, [], 0⟩
  let first : Session (Watched ScriptedTransport) := ⟨link.start 0, ⟨dropping, []⟩, []⟩
  obtain ⟨opened, connects⟩ : ∃ opened, first.connect = .ok opened := ⟨_, rfl⟩
  have polled : Session.poll 0 first.link first.transport = _ := Session.poll_due _ rfl connects
  cases connects
  have dropped := started.poll 0 dropping (polled.trans (Session.hear_down 0 rfl rfl))
  have course := dropped.remove "main"
  exact ⟨_, rfl, rfl, course, Course.removes ScriptedTransport _ 1 _ _ _ _ course⟩

end BaseStation.Abis

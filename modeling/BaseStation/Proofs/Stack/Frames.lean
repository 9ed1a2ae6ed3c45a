import BaseStation.Proofs.Frame.Ring
import BaseStation.Proofs.Stack.Draining

namespace BaseStation

def capped (count : Nat) (limit : Option Nat) : Nat := limit.elim count (min count)

theorem le_capped {bound count : Nat} {limit : Option Nat} :
    bound ≤ capped count limit ↔ bound ≤ count ∧ ∀ other ∈ limit, bound ≤ other := by
  cases limit <;> simp [capped]

theorem capped_le (count : Nat) (limit : Option Nat) : capped count limit ≤ count :=
  (le_capped.mp (Nat.le_refl _)).1

theorem capped_le_of_mem {count other : Nat} {limit : Option Nat} (mem : other ∈ limit) :
    capped count limit ≤ other :=
  (le_capped.mp (Nat.le_refl _)).2 other mem

namespace Stack

variable {τ : Type} {stack stack' next after : Stack τ} {entity : Entity} {effect : Effect (Part τ)} {stop : Bool}
  {count : Nat}

def entities (stack : Stack τ) : List Entity := stack.parts.map (·.entity)

theorem entities_settle (stack : Stack τ) (effect : Effect (Part τ)) :
    (stack.settle effect).entities = stack.entities := by
  simp only [entities, settle, modifyPart, List.map_map]
  refine List.map_congr_left fun part _ => ?_
  simp only [Function.comp_apply]
  split
  · rename_i own
    exact own.symm
  · rfl

theorem exists_part_of_mem (mem : entity ∈ stack.entities) : ∃ part, stack.part? entity = some part := by
  obtain ⟨part, mem, own⟩ := List.mem_map.mp mem
  refine Option.isSome_iff_exists.mp (List.find?_isSome.mpr ⟨part, mem, ?_⟩)
  simpa using own

theorem deliver_frames (delivered : stack.deliver = .ok next) :
    next.entities = stack.entities ∧ next.time = stack.time := by
  unfold deliver at delivered
  split at delivered
  · cases delivered
    exact ⟨rfl, rfl⟩
  · simp only at delivered
    split at delivered
    · cases delivered
      exact ⟨rfl, rfl⟩
    · obtain ⟨effect, _, settled⟩ := bind_eq_ok delivered
      cases settled
      exact ⟨entities_settle _ effect, rfl⟩

theorem Drains.frames {outcome : Except Fault (Stack τ)} (drains : Drains count stack outcome)
    (ended : outcome = .ok stack') : stack'.entities = stack.entities ∧ stack'.time = stack.time := by
  induction drains with
  | done =>
    cases ended
    exact ⟨rfl, rfl⟩
  | fails => cases ended
  | next _ delivered _ ih =>
    obtain ⟨entities, time⟩ := deliver_frames delivered
    obtain ⟨entities', time'⟩ := ih ended
    exact ⟨entities'.trans entities, time'.trans time⟩

theorem Drains.unique {count' : Nat} {outcome outcome' : Except Fault (Stack τ)}
    (drains : Drains count stack outcome) (drains' : Drains count' stack outcome') : outcome = outcome' := by
  induction drains generalizing count' with
  | done idle =>
    cases drains' with
    | done => rfl
    | fails waits | next waits => exact absurd idle waits
  | fails waits failed =>
    cases drains' with
    | done idle => exact absurd idle waits
    | fails _ failed' => exact congrArg _ (Except.error.inj (failed.symm.trans failed'))
    | next _ delivered => cases failed.symm.trans delivered
  | next waits delivered _ ih =>
    cases drains' with
    | done idle => exact absurd idle waits
    | fails _ failed => cases delivered.symm.trans failed
    | next _ delivered' drains' =>
      cases delivered.symm.trans delivered'
      exact ih drains'

theorem deliverAll_eq_ok : stack.deliverAll = .ok stack' ↔ ∃ count, Drains count stack (.ok stack') := by
  obtain ⟨⟨count, drains⟩, _⟩ := deliverAll_drains stack
  constructor
  · intro delivered
    exact ⟨count, delivered ▸ drains⟩
  · rintro ⟨count', drains'⟩
    exact drains.unique drains'

theorem deliverAll_of_empty (idle : stack.queue = .empty) : stack.deliverAll = .ok stack :=
  deliverAll_eq_ok.mpr ⟨0, .done (congrArg Queue.messages idle)⟩

/-- A part sends nothing as it is asked, so that nothing is delivered any more. -/
theorem endFrame_of_empty (idle : stack.queue = .empty) : stack.endFrame =
    .ok (stack.parts.any (·.component.wantsStop stack.time), { stack with time := stack.time.advance 1 }) := by
  unfold endFrame
  simp only [deliverAll_of_empty idle, ok_bind]
  rfl

variable [Abis.Transport τ] {world : Nat → Moment} {now : Nat}

inductive Starts (now : Nat) : List Entity → Stack τ → Stack τ → Prop
  | nil (stack : Stack τ) : Starts now [] stack stack
  | cons {stack began : Stack τ} {entity : Entity} {rest : List Entity} {part : Part τ} {effect : Effect (Part τ)}
      (found : stack.part? entity = some part)
      (told : part.startFrame stack.flags stack.time now = .ok effect)
      (others : Starts now rest (stack.settle effect) began) : Starts now (entity :: rest) stack began

theorem Starts.frames {entities : List Entity} {began : Stack τ} (starts : Starts now entities stack began) :
    began.entities = stack.entities ∧ began.time = stack.time := by
  induction starts with
  | nil => exact ⟨rfl, rfl⟩
  | cons _ _ _ ih => exact ⟨ih.1.trans (entities_settle _ _), ih.2⟩

theorem startParts_eq_ok {entities : List Entity} {began : Stack τ}
    (parts : ∀ entity ∈ entities, entity ∈ stack.entities) :
    entities.foldlM (startPart now) stack = .ok began ↔ Starts now entities stack began := by
  induction entities generalizing stack with
  | nil =>
    constructor
    · intro started
      cases started
      exact .nil _
    · intro starts
      cases starts
      rfl
  | cons entity rest ih =>
    obtain ⟨part, found⟩ := exists_part_of_mem (parts entity List.mem_cons_self)
    have told : startPart now stack entity =
        (part.startFrame stack.flags stack.time now >>= fun effect => .ok (stack.settle effect)) := by
      simp only [startPart, found]
      rfl
    have others (effect : Effect (Part τ)) : rest.foldlM (startPart now) (stack.settle effect) = .ok began ↔
        Starts now rest (stack.settle effect) began := by
      refine ih fun other mem => ?_
      rw [entities_settle]
      exact parts other (List.mem_cons_of_mem _ mem)
    rw [List.foldlM_cons, told]
    constructor
    · intro started
      obtain ⟨middle, first, last⟩ := bind_eq_ok started
      obtain ⟨effect, told, settled⟩ := bind_eq_ok first
      cases settled
      exact .cons found told ((others effect).mp last)
    · intro starts
      cases starts with
      | cons found' told last =>
        cases found.symm.trans found'
        rw [told]
        exact (others _).mpr last

/-- One frame: each part is told in the order of registration that it starts, messages are delivered for as long as
any waits, each part is asked whether to stop, and the clock moves on. -/
inductive Ticks (now : Nat) (stack : Stack τ) : Bool → Stack τ → Prop
  | intro {began idle : Stack τ} {count : Nat} (starts : Starts now stack.entities stack began)
      (drains : Drains count began (.ok idle)) :
      Ticks now stack (idle.parts.any (·.component.wantsStop idle.time))
        { idle with time := idle.time.advance 1 }

theorem startFrame_eq_ok {began : Stack τ} :
    stack.startFrame now = .ok began ↔ Starts now stack.entities stack began :=
  startParts_eq_ok fun _ mem => mem

theorem frame_eq_ok : stack.frame now = .ok (stop, after) ↔ stack.Ticks now stop after := by
  constructor
  · intro ran
    obtain ⟨began, started, ran⟩ := bind_eq_ok ran
    obtain ⟨idle, delivered, ends⟩ := bind_eq_ok ran
    obtain ⟨count, drains⟩ := deliverAll_eq_ok.mp delivered
    rw [endFrame_of_empty (drains.idle rfl)] at ends
    cases ends
    exact .intro (startFrame_eq_ok.mp started) drains
  · intro ticks
    cases ticks with
    | intro starts drains =>
      simp only [frame, startFrame_eq_ok.mpr starts, deliverAll_eq_ok.mpr ⟨_, drains⟩, ok_bind]
      exact endFrame_of_empty (drains.idle rfl)

theorem Ticks.frames (ticks : stack.Ticks now stop after) :
    after.queue = .empty ∧ after.entities = stack.entities ∧ after.time = stack.time.advance 1 := by
  cases ticks with
  | intro starts drains =>
    obtain ⟨entities, time⟩ := starts.frames
    obtain ⟨entities', time'⟩ := drains.frames rfl
    have idle := drains.idle rfl
    exact ⟨idle, entities'.trans entities, congrArg (·.advance 1) (time'.trans time)⟩

/-- The stack after so many frames, whoever asks it to stop, and whether a part did at the end of the last. -/
inductive Frames (world : Nat → Moment) (start : Stack τ) : Nat → Bool → Stack τ → Prop
  | start : Frames world start 0 false start
  | next {count : Nat} {asked stop : Bool} {before after : Stack τ} (earlier : Frames world start count asked before)
      (ticks : before.Ticks (world count).now stop after) : Frames world start (count + 1) stop after

namespace Frames

variable {start : Stack τ} {done : Nat} {asked : Bool}

theorem unique (frames : Frames world start done stop stack) (frames' : Frames world start done asked stack') :
    stop = asked ∧ stack = stack' := by
  induction frames generalizing asked stack' with
  | start =>
    cases frames'
    exact ⟨rfl, rfl⟩
  | next _ ticks ih =>
    cases frames' with
    | next earlier ticks' =>
      cases (ih earlier).2
      cases (frame_eq_ok.mpr ticks).symm.trans (frame_eq_ok.mpr ticks')
      exact ⟨rfl, rfl⟩

theorem of_le (frames : Frames world start count stop stack) (sooner : done ≤ count) :
    ∃ asked before, Frames world start done asked before := by
  induction frames with
  | start =>
    cases Nat.le_zero.mp sooner
    exact ⟨false, start, .start⟩
  | @next count _ _ _ _ earlier ticks ih =>
    rcases Nat.lt_or_eq_of_le sooner with sooner | rfl
    · exact ih (Nat.le_of_lt_succ sooner)
    · exact ⟨_, _, .next earlier ticks⟩

theorem idle (frames : Frames world start count stop stack) (ran : 0 < count) : stack.queue = .empty := by
  cases frames with
  | start => cases ran
  | next _ ticks => exact ticks.frames.1

theorem entities (frames : Frames world start count stop stack) : stack.entities = start.entities := by
  induction frames with
  | start => rfl
  | next _ ticks ih => exact ticks.frames.2.1.trans ih

theorem frame (frames : Frames world start count stop stack) (valid : start.time.IsValid) :
    stack.time = start.time.advance count := by
  induction frames with
  | start => exact (FrameTime.advance_zero valid).symm
  | next _ ticks ih => rw [ticks.frames.2.2, ih, FrameTime.advance_advance, Nat.cast_succ]

end Frames

/-- The stack is to go on before so many frames and not any more from then on, or always. -/
def Clears (world : Nat → Moment) : Option Nat → Prop
  | none => ∀ frame, (world frame).running = true
  | some frames => ∀ frame, (world frame).running = true ↔ frame < frames

/-- The first frame at whose end a part asks to stop, counted from one; or none ever does. -/
def StopsFirst (world : Nat → Moment) (stack : Stack τ) : Option Nat → Prop
  | none => ∀ count after, ¬ Frames world stack count true after
  | some first =>
    (∃ after, Frames world stack first true after) ∧
      ∀ count < first, ∀ after, ¬ Frames world stack count true after

section run

variable {start : Stack τ} {limit fuel done total : Nat} {cleared asked : Option Nat}

theorem StopsFirst.eq_of_asked (stops : start.StopsFirst world asked)
    (frames : Frames world start (done + 1) true stack) (ahead : ∀ first ∈ asked, done < first) :
    asked = some (done + 1) := by
  cases asked with
  | none => exact absurd frames (stops _ _)
  | some first =>
    have sooner : ¬ done + 1 < first := fun sooner => stops.2 _ sooner _ frames
    have later := ahead first rfl
    exact congrArg some (by omega)

theorem StopsFirst.ahead (stops : start.StopsFirst world asked) (frames : Frames world start done false stack)
    (ahead : ∀ first ∈ asked, done ≤ first) : ∀ first ∈ asked, done < first := by
  intro first own
  refine Nat.lt_of_le_of_ne (ahead first own) ?_
  rintro rfl
  cases own
  obtain ⟨⟨after, asks⟩, _⟩ := stops
  cases (asks.unique frames).1

theorem Frames.ends {due : Nat} (reached : Frames world start due stop stack) :
    (Except.ok (due, stack) : Except Fault (Nat × Stack τ)) = .ok (total, after) ↔
      total = due ∧ ∃ stop, Frames world start total stop after := by
  constructor
  · intro same
    cases same
    exact ⟨rfl, stop, reached⟩
  · rintro ⟨rfl, asked, reached'⟩
    rw [(reached.unique reached').2]

theorem runFrom_eq_ok (clears : Clears world cleared) (stops : start.StopsFirst world asked)
    (reached : Frames world start done false stack) (fuelled : done + fuel = max 1 limit) (fuel_pos : 0 < fuel)
    (lasts : ∀ last ∈ cleared, done ≤ last) (ahead : ∀ first ∈ asked, done < first) :
    stack.runFrom world (.some limit) fuel done = .ok (total, after) ↔
      total = capped (capped (max 1 limit) cleared) asked ∧ ∃ stop, Frames world start total stop after := by
  induction fuel generalizing done stack with
  | zero => cases fuel_pos
  | succ fuel ih =>
    have within : done + 1 ≤ max 1 limit := by omega
    unfold runFrom
    cases running : (world done).running with
    | false =>
      have due : capped (capped (max 1 limit) cleared) asked = done := by
        have last : done ∈ cleared := by
          cases cleared with
          | none => cases running.symm.trans (clears done)
          | some last =>
            have past : ¬ done < last := fun more => by cases running.symm.trans ((clears done).mpr more)
            exact congrArg _ (Nat.le_antisymm (Nat.le_of_not_lt past) (lasts last rfl))
        refine Nat.le_antisymm ((capped_le _ _).trans (capped_le_of_mem last)) (le_capped.mpr ⟨?_, ?_⟩)
        · exact le_capped.mpr ⟨Nat.le_of_succ_le within, lasts⟩
        · exact fun first own => Nat.le_of_lt (ahead first own)
      rw [due]
      exact reached.ends
    | true =>
      have lasts : ∀ last ∈ cleared, done + 1 ≤ last := by
        rintro last rfl
        exact (clears done).mp running
      have least : done + 1 ≤ capped (capped (max 1 limit) cleared) asked :=
        le_capped.mpr ⟨le_capped.mpr ⟨within, lasts⟩, ahead⟩
      cases ran : stack.frame (world done).now with
      | error fault =>
        constructor
        · intro ran
          cases ran
        · rintro ⟨rfl, stop, frames⟩
          obtain ⟨_, _, frames⟩ := frames.of_le least
          cases frames with
          | next earlier ticks =>
            cases (reached.unique earlier).2
            cases ran.symm.trans (frame_eq_ok.mpr ticks)
      | ok ended =>
        obtain ⟨stop, next⟩ := ended
        have reached' : Frames world start (done + 1) stop next := .next reached (frame_eq_ok.mp ran)
        simp only [ok_bind]
        cases stop with
        | true =>
          have due : capped (capped (max 1 limit) cleared) asked = done + 1 :=
            Nat.le_antisymm (capped_le_of_mem (stops.eq_of_asked reached' ahead)) least
          rw [due]
          exact reached'.ends
        | false =>
          have ahead := stops.ahead reached' ahead
          by_cases full : limit ≤ done + 1
          · have due : capped (capped (max 1 limit) cleared) asked = done + 1 := by
              refine Nat.le_antisymm ((capped_le _ _).trans ((capped_le _ _).trans ?_)) least
              exact Nat.max_le.mpr ⟨Nat.le_add_left 1 done, full⟩
            rw [due]
            simp only [Option.any_some, decide_eq_true full, Bool.or_true]
            exact reached'.ends
          · simp only [Option.any_some, decide_eq_false full, Bool.or_self]
            exact ih reached' (by omega) (by omega) lasts ahead

theorem Frames.frame_eq (frames : Frames world start done stop after) (valid : start.time.IsValid) :
    after.time.frame = (start.time.frame + done) % hyperframe := by
  have same := start.time.frame_advance done
  rw [← frames.frame valid] at same
  exact_mod_cast same

/-- A stack that is to run a number of frames runs that many, or as many as until it is not to go on or a part asks
it to stop, whichever is least; it fails just if one of these frames does. Told to run none it runs one all the same,
unless it is not to go on from the start. After each frame nothing waits, and the clock is ahead by the frames. -/
theorem run_limited (stack : Stack τ) (world : Nat → Moment) (limit : Nat) {cleared asked : Option Nat}
    (clears : Clears world cleared) (stops : stack.StopsFirst world asked) :
    (∀ done after, stack.run (some limit) world = .ok (done, after) ↔
      done = capped (capped (max 1 limit) cleared) asked ∧ ∃ stop, Frames world stack done stop after) ∧
    (capped (capped (max 1 limit) cleared) asked = capped (capped limit cleared) asked ↔
      limit ≠ 0 ∨ cleared = some 0) ∧
    ∀ done stop after, Frames world stack done stop after →
      (0 < done → after.queue = .empty) ∧ after.entities = stack.entities ∧
      (stack.time.IsValid → after.time.frame = (stack.time.frame + done) % hyperframe) := by
  have ahead : ∀ first ∈ asked, 0 < first := stops.ahead .start fun _ _ => Nat.zero_le _
  refine ⟨fun done after => ?_, ?_, fun done stop after frames => ⟨frames.idle, frames.entities, frames.frame_eq⟩⟩
  · exact runFrom_eq_ok clears stops .start (Nat.zero_add _) (Nat.le_max_left 1 limit)
      (fun _ _ => Nat.zero_le _) ahead
  · by_cases unlimited : limit = 0
    · subst unlimited
      have least : capped (capped 0 cleared) asked = 0 := Nat.le_zero.mp ((capped_le _ _).trans (capped_le _ _))
      rw [least]
      constructor
      · intro same
        by_cases off : cleared = some 0
        · exact .inr off
        · have least : 1 ≤ capped (capped (max 1 0) cleared) asked := by
            refine le_capped.mpr ⟨le_capped.mpr ⟨Nat.le_refl 1, fun last own => ?_⟩, ahead⟩
            refine Nat.pos_of_ne_zero ?_
            rintro rfl
            exact off own
          omega
      · rintro (limited | rfl)
        · exact absurd rfl limited
        · exact Nat.le_zero.mp ((capped_le _ _).trans (capped_le_of_mem rfl))
    · rw [Nat.max_eq_right (Nat.one_le_iff_ne_zero.mpr unlimited)]
      exact ⟨fun _ => .inl unlimited, fun _ => rfl⟩

end run

open Abis (ScriptedTransport)

theorem run_limited_asked :
    ∃ (stack after : Stack ScriptedTransport) (world : Nat → Moment), stack.time.frame = hyperframe - 1 ∧
      Clears world (some 4) ∧ stack.StopsFirst world (some 3) ∧
      stack.run (some 5) world = .ok (3, after) ∧ after.queue = .empty ∧ after.time.frame = 2 := by
  let stack : Stack ScriptedTransport :=
    ofComponents (.ofHosts []) ⟨hyperframe - 1⟩ [.layer1 .empty, .recorder (.fresh .abis (some 1))]
  let world (frame : Nat) : Moment := ⟨decide (frame < 4), 0⟩
  have clears : Clears world (some 4) := fun frame => decide_eq_true_iff
  have turns : (⟨hyperframe - 1⟩ : FrameTime).advance 1 = ⟨0⟩ := by decide
  have first : Frames world stack 1 false { stack with time := ⟨0⟩ } := by
    rw [← turns]
    exact .next .start (frame_eq_ok.mp rfl)
  have second : Frames world stack 2 false { stack with time := ⟨1⟩ } := .next first (frame_eq_ok.mp rfl)
  have third : Frames world stack 3 true { stack with time := ⟨2⟩ } := .next second (frame_eq_ok.mp rfl)
  have stops : stack.StopsFirst world (some 3) := by
    refine ⟨⟨_, third⟩, fun count sooner after asks => ?_⟩
    have few : count = 0 ∨ count = 1 ∨ count = 2 := by omega
    rcases few with rfl | rfl | rfl
    · cases asks
    · cases (asks.unique first).1
    · cases (asks.unique second).1
  obtain ⟨runs, -, frames⟩ := run_limited stack world 5 clears stops
  obtain ⟨idle, -, clock⟩ := frames 3 true _ third
  have ran := (runs 3 _).mpr ⟨rfl, true, third⟩
  exact ⟨stack, _, world, rfl, clears, stops, ran, idle (by decide), (clock (by decide)).trans (by decide)⟩

/-- Told to run no frame, and neither told nor asked to stop, layer 1 alone runs one. -/
theorem run_limited_none : ∃ (stack after : Stack ScriptedTransport) (world : Nat → Moment),
    Clears world none ∧ stack.StopsFirst world none ∧ capped (capped 0 none) none = 0 ∧
      stack.run (some 0) world = .ok (1, after) := by
  let quiet (time : FrameTime) : Stack ScriptedTransport := ofComponents (.ofHosts []) time [.layer1 .empty]
  let world (_ : Nat) : Moment := ⟨true, 0⟩
  have still {count : Nat} {stop : Bool} {after : Stack ScriptedTransport}
      (frames : Frames world (quiet ⟨0⟩) count stop after) : stop = false ∧ ∃ time, after = quiet time := by
    induction frames with
    | start => exact ⟨rfl, ⟨0⟩, rfl⟩
    | next _ ticks ih =>
      obtain ⟨_, time, rfl⟩ := ih
      have ran : (quiet time).frame 0 = .ok (false, quiet (time.advance 1)) := rfl
      cases ran.symm.trans (frame_eq_ok.mpr ticks)
      exact ⟨rfl, _, rfl⟩
  refine ⟨quiet ⟨0⟩, quiet ⟨1⟩, world, fun _ => rfl, fun count after asks => ?_, rfl, rfl⟩
  cases (still asks).1

end Stack

end BaseStation

import BaseStation.Log.Line

namespace BaseStation.Log

inductive FieldOrder
  | messageFirst
  | frameFirst
  deriving DecidableEq, Repr

def fieldsOf (order : FieldOrder) (message : String) (frame : Option Nat) : List Field :=
  match order with
  | .messageFirst => .message message :: (frame.map Field.frame).toList
  | .frameFirst => (frame.map Field.frame).toList ++ [.message message]

def mark : List Char := "ts=".toList

/-- What is cut out is a part of the message. -/
def Cuts (order : FieldOrder) (message : String) (frame : Option Nat) : Prop :=
  order = .messageFirst ∧ frame.isSome ∧ mark <:+: message.toList

theorem blank_notMem_mark : ' ' ∉ mark := by decide

theorem blank_notMem_toString (n : Nat) : ' ' ∉ (toString n).toList := by
  rw [Nat.toString_eq_ofList_toDigits, String.toList_ofList]
  intro blank
  exact absurd (Nat.isDigit_of_mem_toDigits (by decide) (by decide) blank) (by decide)

section Cut

variable {text before value rest : List Char}

theorem withoutFrame_of_blank
    (found : Text.splitFirst mark text = some (before, value ++ ' ' :: rest)) (plain : ' ' ∉ value) :
    withoutFrame text = before ++ rest := by
  unfold mark at found
  unfold withoutFrame
  rw [found]
  dsimp only
  rw [Text.splitFirst_char plain]

theorem withoutFrame_of_end
    (found : Text.splitFirst mark text = some (before, value)) (plain : ' ' ∉ value) :
    withoutFrame text = before := by
  have blankless : Text.splitFirst [' '] value = none := by
    apply Text.splitFirst_eq_none_iff.mpr
    intro inside
    exact plain (inside.subset (List.mem_singleton_self ' '))
  unfold mark at found
  unfold withoutFrame
  rw [found]
  dsimp only
  rw [blankless]

end Cut

theorem exists_value {text : List Char} (marked : mark <:+: text) :
    ∃ before value rest, Text.splitFirst mark text = some (before, value ++ rest) ∧ ' ' ∉ value ∧
      (rest = [] ∨ ∃ tail, rest = ' ' :: tail) := by
  cases found : Text.splitFirst mark text with
  | none => exact absurd marked (Text.splitFirst_eq_none_iff.mp found)
  | some sides =>
    rcases sides with ⟨before, after⟩
    by_cases blank : ' ' ∈ after
    · rcases List.eq_append_cons_of_mem blank with ⟨value, tail, rfl, plain⟩
      exact ⟨before, value, ' ' :: tail, rfl, plain, Or.inr ⟨tail, rfl⟩⟩
    · exact ⟨before, after, [], by rw [List.append_nil], blank, Or.inl rfl⟩

theorem placeOf_eq_file {file : String} (outside : ¬ "/src/".toList <:+: file.toList) (frame : String) :
    placeOf frame file = file := by
  unfold placeOf
  rw [Text.splitFirst_eq_none_iff.mpr outside]

theorem prefix_placeOf {file : String} (inside : "/src/".toList <:+: file.toList) (frame : String) :
    frame.toList <+: (placeOf frame file).toList := by
  unfold placeOf
  split
  · rename_i outside
    exact absurd inside (Text.splitFirst_eq_none_iff.mp outside)
  · dsimp only
    split <;> simp only [String.toList_append, List.append_assoc, List.prefix_append]

namespace Event

def telling (event : Event) (order : FieldOrder) (message : String) (frame : Option Nat) : Event :=
  { event with fields := fieldsOf order message frame }

/-- The frame is shown in front. -/
def IsPlaced (event : Event) : Prop := "/src/".toList <:+: (event.file.getD "unknown").toList

section Shown

variable (event : Event)

theorem message_infix_text : event.message.toList <:+: event.text.toList := by
  unfold text
  rw [String.toList_append, String.toList_append]
  exact List.infix_append _ _ _

theorem place_infix_text :
    (placeOf (frameText event.frame?) (event.file.getD "unknown")).toList <:+: event.text.toList := by
  have inside : (placeOf (frameText event.frame?) (event.file.getD "unknown")).toList <:+:
      event.location.toList := by
    unfold location
    simp only [String.toList_append]
    iterate 3 apply List.infix_append_of_infix_left
    exact List.infix_append_right
  apply inside.trans
  unfold text Text.padRight
  simp only [String.toList_append, List.append_assoc]
  exact (List.prefix_append _ _).isInfix

end Shown

variable (event : Event) (order : FieldOrder) (message : String) (n : Nat) (frame : Option Nat)

@[simp] theorem telling_frame? : (event.telling order message frame).frame? = frame := by
  cases order <;> cases frame <;> rfl

theorem fieldText_messageFirst : (event.telling .messageFirst message (some n)).fieldText.toList =
    message.toList ++ ' ' :: (mark ++ (toString n).toList) := by
  simp [fieldText, telling, fieldsOf, Field.text, mark]

theorem fieldText_frameFirst : (event.telling .frameFirst message (some n)).fieldText.toList =
    mark ++ ((toString n).toList ++ ' ' :: message.toList) := by
  simp [fieldText, telling, fieldsOf, Field.text, mark]

theorem message_of_none : (event.telling order message none).message = message := by
  unfold Event.message
  rw [telling_frame?]
  cases order <;> simp [fieldText, telling, fieldsOf, Field.text]

theorem message_of_some : (event.telling order message (some n)).message.toList =
    withoutFrame (event.telling order message (some n)).fieldText.toList := by
  unfold Event.message
  rw [telling_frame?, Option.isSome_some, if_pos rfl, String.toList_ofList]

theorem message_frameFirst : (event.telling .frameFirst message (some n)).message.toList =
    message.toList := by
  rw [message_of_some, fieldText_frameFirst]
  exact withoutFrame_of_blank (Text.splitFirst_self ..) (blank_notMem_toString n)

theorem message_messageFirst (unmarked : ¬ mark <:+: message.toList) :
    (event.telling .messageFirst message (some n)).message.toList = message.toList ++ [' '] := by
  rw [message_of_some, fieldText_messageFirst]
  apply withoutFrame_of_end _ (blank_notMem_toString n)
  exact Text.splitFirst_append_cons blank_notMem_mark unmarked _

variable {message} {before value rest : List Char}

/-- From the first mark in the message up to the next blank. -/
theorem message_cut (found : Text.splitFirst mark message.toList = some (before, value ++ rest))
    (plain : ' ' ∉ value) (ends : rest = [] ∨ ∃ tail, rest = ' ' :: tail) :
    (event.telling .messageFirst message (some n)).message.toList =
      before ++ (rest ++ ' ' :: (mark ++ (toString n).toList)).tail := by
  rw [message_of_some, fieldText_messageFirst, Text.splitFirst_eq_some found, List.append_assoc]
  rcases ends with rfl | ⟨tail, rfl⟩
  · apply withoutFrame_of_blank _ plain
    rw [List.append_nil]
    exact Text.splitFirst_replace found _
  · apply withoutFrame_of_blank _ plain
    rw [List.cons_append, List.tail_cons, List.append_assoc value, List.cons_append]
    exact Text.splitFirst_replace found _

variable {event order frame} {filter : Level → String → Bool}

theorem printed_congr {order' : FieldOrder} {message' : String} {frame' : Option Nat}
    (location : (event.telling order' message' frame').location =
      (event.telling order message frame).location)
    (same : (event.telling order' message' frame').message.toList =
      (event.telling order message frame).message.toList) :
    (event.telling order' message' frame').printedBy filter =
      (event.telling order message frame).printedBy filter := by
  unfold printedBy text
  rw [location, String.toList_injective same]
  rfl

theorem location_telling {order' : FieldOrder} {message' : String} {frame' : Option Nat}
    (same : event.IsPlaced → frame' = frame) :
    (event.telling order' message' frame').location = (event.telling order message frame).location := by
  unfold location
  by_cases placed : event.IsPlaced
  · rw [telling_frame?, telling_frame?, same placed]
    rfl
  · dsimp only [telling]
    rw [placeOf_eq_file placed, placeOf_eq_file placed]

theorem message_whole (whole : ¬ Cuts order message frame) :
    message.toList <+: (event.telling order message frame).message.toList := by
  cases frame with
  | none => exact ⟨[], by rw [message_of_none, List.append_nil]⟩
  | some n =>
    cases order with
    | frameFirst => exact ⟨[], by rw [message_frameFirst, List.append_nil]⟩
    | messageFirst =>
      have unmarked : ¬ mark <:+: message.toList := fun marked => whole ⟨rfl, rfl, marked⟩
      exact ⟨[' '], (message_messageFirst event message n unmarked).symm⟩

theorem message_telling_frame (whole : ¬ Cuts order message (some n)) (other : Nat) :
    (event.telling order message (some other)).message.toList =
      (event.telling order message (some n)).message.toList := by
  cases order with
  | frameFirst => rw [message_frameFirst, message_frameFirst]
  | messageFirst =>
    have unmarked : ¬ mark <:+: message.toList := fun marked => whole ⟨rfl, rfl, marked⟩
    rw [message_messageFirst event message other unmarked, message_messageFirst event message n unmarked]

theorem printed_telling (accepted : filter event.level event.target = true) :
    (event.telling order message frame).printedBy filter =
      (event.telling order message frame).text := if_pos accepted

theorem message_shown (accepted : filter event.level event.target = true) (whole : ¬ Cuts order message frame) :
    message.toList <:+: ((event.telling order message frame).printedBy filter).toList := by
  rw [printed_telling accepted]
  exact (message_whole whole).isInfix.trans (message_infix_text _)

theorem frame_shown (accepted : filter event.level event.target = true)
    (shown : event.IsPlaced ∨ Cuts order message (some n)) :
    (toString n).toList <:+: ((event.telling order message (some n)).printedBy filter).toList := by
  rw [printed_telling accepted]
  rcases shown with placed | ⟨rfl, -, marked⟩
  · apply List.IsInfix.trans _ (place_infix_text _)
    rw [telling_frame?]
    exact (prefix_placeOf placed _).isInfix
  · apply List.IsInfix.trans _ (message_infix_text _)
    rcases exists_value marked with ⟨before, value, rest, found, plain, ends⟩
    rw [message_cut event n found plain ends]
    -- the cut ends at the latest with the blank in front of the frame
    rcases ends with rfl | ⟨tail, rfl⟩
    · rw [List.nil_append, List.tail_cons, ← List.append_assoc]
      exact List.infix_append_right
    · rw [List.cons_append, List.tail_cons, List.append_cons tail, ← List.append_assoc,
        ← List.append_assoc]
      exact List.infix_append_right

theorem cut_lost (cuts : Cuts order message frame) (filter : Level → String → Bool) :
    ∃ before value rest, message.toList = before ++ mark ++ value ++ rest ∧ ' ' ∉ value ∧
      (rest = [] ∨ ∃ tail, rest = ' ' :: tail) ∧
      ∀ other, ' ' ∉ other →
        (event.telling order (String.ofList (before ++ mark ++ other ++ rest)) frame).printedBy filter =
          (event.telling order message frame).printedBy filter := by
  rcases cuts with ⟨rfl, timed, marked⟩
  rcases Option.isSome_iff_exists.mp timed with ⟨n, rfl⟩
  rcases exists_value marked with ⟨before, value, rest, found, plain, ends⟩
  refine ⟨before, value, rest, ?_, plain, ends, ?_⟩
  · rw [Text.splitFirst_eq_some found, List.append_assoc _ value]
  · intro other blankless
    have replaced : Text.splitFirst mark
        (String.ofList (before ++ mark ++ other ++ rest)).toList = some (before, other ++ rest) := by
      rw [String.toList_ofList, List.append_assoc _ other]
      exact Text.splitFirst_replace found _
    apply printed_congr (location_telling fun _ => rfl)
    rw [message_cut event n replaced blankless ends, message_cut event n found plain ends]

theorem frame_lost (hidden : ¬ (event.IsPlaced ∨ Cuts order message (some n))) (other : Nat)
    (filter : Level → String → Bool) :
    (event.telling order message (some other)).printedBy filter =
      (event.telling order message (some n)).printedBy filter := by
  rcases not_or.mp hidden with ⟨outside, whole⟩
  apply printed_congr (location_telling fun placed => absurd placed outside)
  exact message_telling_frame n whole other

/-- A line holds the message but for what is cut out of it, and then it is the same for whatever else
could stand there. It holds the frame if that is shown in front or spared by the cut, and else it is the
same for every frame. -/
theorem printed_keeps (event : Event) (order : FieldOrder) (message : String) (frame : Option Nat)
    {filter : Level → String → Bool} (accepted : filter event.level event.target = true) :
    (¬ Cuts order message frame →
      message.toList <:+: ((event.telling order message frame).printedBy filter).toList) ∧
    (Cuts order message frame →
      ∃ before value rest, message.toList = before ++ mark ++ value ++ rest ∧ ' ' ∉ value ∧
        (rest = [] ∨ ∃ tail, rest = ' ' :: tail) ∧
        ∀ other, ' ' ∉ other →
          (event.telling order (String.ofList (before ++ mark ++ other ++ rest)) frame).printedBy filter =
            (event.telling order message frame).printedBy filter) ∧
    ∀ n, frame = some n →
      (event.IsPlaced ∨ Cuts order message frame →
        (toString n).toList <:+: ((event.telling order message frame).printedBy filter).toList) ∧
      (¬ (event.IsPlaced ∨ Cuts order message frame) →
        ∀ other, (event.telling order message (some other)).printedBy filter =
          (event.telling order message frame).printedBy filter) := by
  refine ⟨message_shown accepted, fun cuts => cut_lost cuts filter, ?_⟩
  rintro n rfl
  constructor
  · exact frame_shown n accepted
  · intro hidden other
    exact frame_lost n hidden other filter

def computed : Event :=
  ⟨.info, "gsm_entities::l1sap::measurement",
    some "crates/gsm-entities/src/l1sap/measurement.rs", some 332, []⟩

theorem printed_keeps_frameFirst : accepts standard computed.level computed.target = true ∧
    ¬ Cuts .frameFirst "trx=0 ts=2 ss=0 computed" (some 142) ∧ computed.IsPlaced ∧
    "trx=0 ts=2 ss=0 computed".toList <:+: ((computed.telling .frameFirst
      "trx=0 ts=2 ss=0 computed" (some 142)).printedBy (accepts standard)).toList ∧
    (toString 142).toList <:+: ((computed.telling .frameFirst
      "trx=0 ts=2 ss=0 computed" (some 142)).printedBy (accepts standard)).toList := by
  have accepted : accepts standard computed.level computed.target = true := by decide +kernel
  have whole : ¬ Cuts .frameFirst "trx=0 ts=2 ss=0 computed" (some 142) := fun cuts => by cases cuts.1
  have placed : computed.IsPlaced := ⟨"crates/gsm-entities".toList, "l1sap/measurement.rs".toList, by decide⟩
  have kept := printed_keeps computed .frameFirst "trx=0 ts=2 ss=0 computed" (some 142) accepted
  exact ⟨accepted, whole, placed, kept.1 whole, (kept.2.2 142 rfl).1 (Or.inl placed)⟩

theorem printed_loses_address : accepts standard computed.level computed.target = true ∧
    ¬ "trx=0 ts=2 ss=0 computed".toList <:+: ((computed.telling .messageFirst
      "trx=0 ts=2 ss=0 computed" (some 142)).printedBy (accepts standard)).toList := by
  constructor <;> decide +kernel

end Event

end BaseStation.Log

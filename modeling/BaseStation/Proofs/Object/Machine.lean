import BaseStation.Object.Machine

namespace BaseStation.Machine

variable {cls : ObjectClass} {phase : Phase} {kind : EventKind}

theorem mayMove_notInstalled (used : (row? cls phase).isSome = true) :
    mayMove cls phase .notInstalled = true := by
  cases cls <;> cases phase <;> first | rfl | cases used

theorem notInstalled_of_swAct (accepted : accepts cls phase .swAct = true) : phase = .notInstalled := by
  cases cls <;> cases phase <;> first | rfl | cases accepted

theorem offline_of_answer (apart : cls ≠ .channel) (answer : kind = .opstartAck ∨ kind = .opstartNack)
    (accepted : accepts cls phase kind = true) : phase = .offline := by
  rcases answer with rfl | rfl <;> cases cls <;> cases phase <;>
    first | rfl | exact absurd rfl apart | cases accepted

theorem accepts_answer (accepted : accepts cls phase .rxOpstart = true) :
    accepts cls phase .opstartAck = true ∧ accepts cls phase .opstartNack = true := by
  cases cls <;> cases phase <;> first | exact ⟨rfl, rfl⟩ | cases accepted

theorem installed_of_opstartAck (accepted : accepts cls phase .opstartAck = true) : phase ≠ .notInstalled := by
  rintro rfl
  cases cls <;> cases accepted

theorem not_mayMove_enabled (cls : ObjectClass) : mayMove cls .notInstalled .enabled = false := by
  cases cls <;> rfl

end BaseStation.Machine

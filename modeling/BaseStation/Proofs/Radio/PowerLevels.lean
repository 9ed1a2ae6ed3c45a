import Mathlib.Order.Bounds.Defs
import BaseStation.Radio.Band

namespace BaseStation.Band

def lowest : Band → Int
  | gsm850 | gsm900 => 5
  | dcs1800 | pcs1900 => 0

def highest : Band → Int
  | gsm850 | gsm900 => 39
  | dcs1800 => 36
  | pcs1900 => 33

variable {band : Band} {dbm : Int}

theorem lowest_nonneg (band : Band) : 0 ≤ band.lowest := by
  cases band <;> decide

theorem highest_le (band : Band) : band.highest ≤ 39 := by
  cases band <;> decide

theorem power_within (band : Band) (level : Nat) :
    band.lowest ≤ band.power level ∧ band.power level ≤ band.highest := by
  cases band with
  | gsm850 | gsm900 | dcs1800 | pcs1900 => grind [power, lowest, highest]

theorem power_level_of_lt (below : dbm < band.lowest) :
    band.power (band.level dbm) = band.lowest := by
  cases band with
  | gsm850 | gsm900 | dcs1800 | pcs1900 => grind [level, power, lowest]

theorem power_level_le (above : band.lowest ≤ dbm) : band.power (band.level dbm) ≤ dbm := by
  cases band with
  | gsm850 | gsm900 | dcs1800 | pcs1900 => grind [level, power, lowest]

theorem level_le (band : Band) (dbm : Int) : band.level dbm ≤ 255 := by
  cases band with
  | gsm850 | gsm900 | dcs1800 | pcs1900 => grind [level]

/-- No level comes closer from below. -/
theorem le_power_level {other : Nat} (le : band.power other ≤ dbm) :
    band.power other ≤ band.power (band.level dbm) := by
  cases band with
  | gsm850 | gsm900 | dcs1800 | pcs1900 => grind [level, power]

theorem power_level_mono {dbm' : Int} (le : dbm ≤ dbm') :
    band.power (band.level dbm) ≤ band.power (band.level dbm') := by
  by_cases above : band.lowest ≤ dbm
  · have down : band.power (band.level dbm) ≤ dbm' := Int.le_trans (power_level_le above) le
    exact le_power_level down
  · rw [power_level_of_lt (Int.not_le.mp above)]
    exact (band.power_within _).1

theorem power_level_power (band : Band) (level : Nat) :
    band.power (band.level (band.power level)) = band.power level :=
  Int.le_antisymm (power_level_le (band.power_within level).1) (le_power_level (Int.le_refl _))

theorem power_level_near (reached : dbm ≤ band.highest) :
    dbm ≤ band.power (band.level dbm) + 1 := by
  cases band with
  | gsm850 | gsm900 | dcs1800 | pcs1900 => grind [level, power, highest]

def powers (band : Band) : Set Int := {dbm | ∃ level ≤ 255, band.power level = dbm}

theorem power_mem_powers {level : Nat} (octet : level ≤ 255) : band.power level ∈ band.powers :=
  ⟨level, octet, rfl⟩

theorem isLeast_lowest (band : Band) : IsLeast band.powers band.lowest := by
  constructor
  · have least := power_level_of_lt (Int.sub_one_lt_of_le (Int.le_refl band.lowest))
    exact least ▸ power_mem_powers (band.level_le _)
  · rintro _ ⟨level, _, rfl⟩
    exact (band.power_within level).1

theorem isGreatest_power_level (above : band.lowest ≤ dbm) :
    IsGreatest {power ∈ band.powers | power ≤ dbm} (band.power (band.level dbm)) := by
  constructor
  · exact ⟨power_mem_powers (band.level_le dbm), power_level_le above⟩
  · rintro _ ⟨⟨level, _, rfl⟩, le⟩
    exact le_power_level le

/-- A power that is turned into a level is rounded down to the powers of the band, and up only to the lowest of
them. -/
theorem level_rounds_down (band : Band) :
    IsLeast band.powers band.lowest ∧
    (∀ dbm, band.lowest ≤ dbm →
      IsGreatest {power ∈ band.powers | power ≤ dbm} (band.power (band.level dbm))) ∧
    (∀ dbm, dbm < band.lowest → band.power (band.level dbm) = band.lowest) ∧
    (∀ dbm dbm', dbm ≤ dbm' → band.power (band.level dbm) ≤ band.power (band.level dbm')) ∧
    ∀ level ≤ 255, band.power (band.level (band.power level)) = band.power level :=
  ⟨band.isLeast_lowest, fun _ => isGreatest_power_level, fun _ => power_level_of_lt,
    fun _ _ => power_level_mono, fun level _ => band.power_level_power level⟩

theorem level_rounds_down_dcs1800 :
    IsGreatest {power ∈ dcs1800.powers | power ≤ 33} 32 ∧ IsGreatest {power ∈ dcs1800.powers | power ≤ 31} 30 ∧
      dcs1800.power (dcs1800.level (-4)) = 0 ∧
      dcs1800.power (dcs1800.level 31) ≤ dcs1800.power (dcs1800.level 33) ∧
      dcs1800.power (dcs1800.level (dcs1800.power 20)) = 0 := by
  obtain ⟨-, rounds, least, ordered, keeps⟩ := level_rounds_down .dcs1800
  exact ⟨rounds 33 (by decide), rounds 31 (by decide), least (-4) (by decide), ordered 31 33 (by decide),
    keeps 20 (by decide)⟩

end BaseStation.Band

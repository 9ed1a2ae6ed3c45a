import BaseStation.Sacch.Block

namespace BaseStation.Sacch

namespace Header

def onAir (header : Header) : Header :=
  { header with msPower := UInt8.ofNat (header.msPower.toNat % 32) }

def InRange (header : Header) : Prop :=
  header.msPower.toNat < 32

instance (header : Header) : Decidable header.InRange :=
  inferInstanceAs (Decidable (_ < _))

theorem bit_eq_mul (weight : Nat) (flag : Bool) : bit weight flag = weight * flag.toNat := by
  cases flag <;> simp [bit]

theorem toNat_firstOctet (header : Header) :
    header.firstOctet.toNat
      = header.msPower.toNat % 32 + 32 * header.fastPower.toNat + 64 * header.repetition.toNat := by
  have fast := Bool.toNat_le header.fastPower
  have repeated := Bool.toNat_le header.repetition
  rw [firstOctet, bit_eq_mul, bit_eq_mul, UInt8.toNat_ofNat']
  exact Nat.mod_eq_of_lt (by omega)

theorem ofFirst_firstOctet (header : Header) :
    ofFirst header.firstOctet header.timingAdvance = header.onAir := by
  have fast := Bool.toNat_le header.fastPower
  have repeated := Bool.toNat_le header.repetition
  have power : header.firstOctet.toNat % 32 = header.msPower.toNat % 32 := by
    rw [toNat_firstOctet]; omega
  have fastBit : header.firstOctet.toNat / 32 % 2 = header.fastPower.toNat := by
    rw [toNat_firstOctet]; omega
  have repeatedBit : header.firstOctet.toNat / 64 % 2 = header.repetition.toNat := by
    rw [toNat_firstOctet]; omega
  simp [ofFirst, onAir, power, fastBit, repeatedBit]

theorem onAir_of_inRange {header : Header} (inRange : header.InRange) :
    header.onAir = header := by
  simp [onAir, Nat.mod_eq_of_lt inRange]

theorem inRange_ofFirst (first advance : UInt8) : (ofFirst first advance).InRange := by
  simp only [InRange, ofFirst, UInt8.toNat_ofNat']
  omega

theorem inRange_of_decode {octets : List UInt8} {header : Header}
    (decoded : decode octets = .ok header) : header.InRange := by
  rcases octets with _ | ⟨first, _ | ⟨advance, rest⟩⟩
  · cases decoded
  · cases decoded
  · cases decoded
    exact inRange_ofFirst first advance

end Header

namespace Results

def onAir (results : Results) : Results :=
  { results with
    levelFull := UInt8.ofNat (results.levelFull.toNat % 64)
    levelSub := UInt8.ofNat (results.levelSub.toNat % 64)
    qualityFull := UInt8.ofNat (results.qualityFull.toNat % 8)
    qualitySub := UInt8.ofNat (results.qualitySub.toNat % 8) }

structure InRange (results : Results) : Prop where
  levelFull : results.levelFull.toNat < 64
  levelSub : results.levelSub.toNat < 64
  qualityFull : results.qualityFull.toNat < 8
  qualitySub : results.qualitySub.toNat < 8

open Header (bit bit_eq_mul)

theorem ofOctets_encode (results : Results) :
    ∃ first second third,
      results.encode = [first, second, third] ∧ ofOctets first second third = results.onAir := by
  refine ⟨_, _, _, rfl, ?_⟩
  have dtx := Bool.toNat_le results.dtxUsed
  have neighbours := Bool.toNat_le results.neighbourList
  have invalid := Bool.toNat_le (!results.valid)
  have first : (UInt8.ofNat (results.levelFull.toNat % 64 + bit 64 results.dtxUsed
        + bit 128 results.neighbourList)).toNat
      = results.levelFull.toNat % 64 + 64 * results.dtxUsed.toNat
        + 128 * results.neighbourList.toNat := by
    rw [bit_eq_mul, bit_eq_mul, UInt8.toNat_ofNat']
    exact Nat.mod_eq_of_lt (by omega)
  have second : (UInt8.ofNat (results.levelSub.toNat % 64 + bit 64 (!results.valid))).toNat
      = results.levelSub.toNat % 64 + 64 * (!results.valid).toNat := by
    rw [bit_eq_mul, UInt8.toNat_ofNat']
    exact Nat.mod_eq_of_lt (by omega)
  have third : (UInt8.ofNat (results.qualityFull.toNat % 8 * 16
        + results.qualitySub.toNat % 8 * 2)).toNat
      = results.qualityFull.toNat % 8 * 16 + results.qualitySub.toNat % 8 * 2 := by
    rw [UInt8.toNat_ofNat']
    exact Nat.mod_eq_of_lt (by omega)
  simp only [ofOctets, onAir, first, second, third, mk.injEq]
  refine ⟨?neighbourList, ?dtxUsed, ?levelFull, ?valid, ?levelSub, ?qualityFull, ?qualitySub⟩
  case neighbourList =>
    rw [show (results.levelFull.toNat % 64 + 64 * results.dtxUsed.toNat
      + 128 * results.neighbourList.toNat) / 128 % 2 = results.neighbourList.toNat by omega]
    simp
  case dtxUsed =>
    rw [show (results.levelFull.toNat % 64 + 64 * results.dtxUsed.toNat
      + 128 * results.neighbourList.toNat) / 64 % 2 = results.dtxUsed.toNat by omega]
    simp
  case valid =>
    rw [show (results.levelSub.toNat % 64 + 64 * (!results.valid).toNat) / 64 % 2
      = (!results.valid).toNat by omega]
    simp
  case levelFull => congr 1; omega
  case levelSub => congr 1; omega
  case qualityFull => congr 1; omega
  case qualitySub => congr 1; omega

theorem onAir_of_inRange {results : Results} (inRange : results.InRange) :
    results.onAir = results := by
  simp [onAir, Nat.mod_eq_of_lt inRange.levelFull, Nat.mod_eq_of_lt inRange.levelSub,
    Nat.mod_eq_of_lt inRange.qualityFull, Nat.mod_eq_of_lt inRange.qualitySub]

theorem inRange_ofOctets (first second third : UInt8) :
    (ofOctets first second third).InRange := by
  constructor <;> simp only [ofOctets, UInt8.toNat_ofNat'] <;> omega

end Results

namespace Block

theorem reportOf_encodeReport (header : Header) (results : Results) :
    reportOf ((encodeReport header results).drop 2)
      = some ⟨.measurement, some results.onAir⟩ := by
  obtain ⟨first, second, third, encoded, read⟩ := results.ofOctets_encode
  simp [encodeReport, Header.encode, encoded, reportOf, lapdmAddress, lapdmControl, radioResource,
    ReportType.code, ReportType.ofCode?, read]

@[simp] theorem length_encodeReport (header : Header) (results : Results) :
    (encodeReport header results).length = length := by
  simp [encodeReport, Header.encode, Results.encode, length]

theorem decode_encodeReport (header : Header) (results : Results) :
    decode (encodeReport header results)
      = .ok ⟨header.onAir, some ⟨.measurement, some results.onAir⟩,
          encodeReport header results⟩ := by
  have opened : Header.decode (encodeReport header results) = .ok header.onAir := by
    simp [encodeReport, Header.encode, Header.decode, Header.ofFirst_firstOctet]
  simp [decode, opened, reportOf_encodeReport, bind, Except.bind, pure, Except.pure]

theorem inRange_of_reportOf {octets : List UInt8} {report : Report}
    (read : reportOf octets = some report) (plain : report.type = .measurement) :
    ∃ results : Results, report = ⟨.measurement, some results⟩ ∧ results.InRange := by
  unfold reportOf at read
  split at read
  case h_2 => cases read
  case h_1 =>
    split at read
    case isFalse => cases read
    case isTrue =>
      split at read
      case h_1 => cases read; exact ⟨_, rfl, Results.inRange_ofOctets ..⟩
      case h_2 => cases read; cases plain
      case h_3 => cases read

theorem decode_eq_ok {octets : List UInt8} {block : Block} (decoded : decode octets = .ok block) :
    octets.length = length ∧ Header.decode octets = .ok block.header
      ∧ block.report = reportOf (octets.drop 2) ∧ block.octets = octets := by
  unfold decode at decoded
  by_cases sized : octets.length = length
  · cases opened : Header.decode octets with
    | error => simp [sized, opened, bind, Except.bind] at decoded
    | ok header =>
      simp only [sized, ne_eq, not_true_eq_false, ↓reduceIte, opened, bind, Except.bind, pure,
        Except.pure, Except.ok.injEq] at decoded
      subst decoded
      exact ⟨sized, rfl, rfl, rfl⟩
  · simp [sized, bind, Except.bind, throw, throwThe, MonadExceptOf.throw] at decoded

/-- What the encoder writes the decoder reads, each field cut to its own bits; and what the decoder
read from a plain report survives being written again. -/
theorem reports_survive :
    (∀ header results, ∃ block layer3,
      decode (encodeReport header results) = .ok block
        ∧ block.header = header.onAir
        ∧ block.report = some ⟨.measurement, some results.onAir⟩
        ∧ block.layer3? = some layer3 ∧ layer3.length = 18
        ∧ (header.InRange → block.header = header)
        ∧ (results.InRange → block.results? = some results))
      ∧ ∀ octets block report,
        decode octets = .ok block → block.report = some report → report.type = .measurement →
          ∃ results again,
            report.results = some results
              ∧ decode (encodeReport block.header results) = .ok again
              ∧ again.header = block.header ∧ again.report = block.report := by
  constructor
  · intro header results
    have decoded := decode_encodeReport header results
    refine ⟨_, (encodeReport header results).drop layer3Offset, decoded, rfl, rfl, rfl, ?_, ?_, ?_⟩
    · simp [length, layer3Offset]
    · exact Header.onAir_of_inRange
    · intro inRange
      simp [results?, Results.onAir_of_inRange inRange]
  · intro octets block report decoded reported plain
    obtain ⟨-, opened, read, -⟩ := decode_eq_ok decoded
    obtain ⟨results, rfl, inRange⟩ := inRange_of_reportOf (read ▸ reported) plain
    refine ⟨results, _, rfl, decode_encodeReport block.header results, ?_, ?_⟩
    · exact Header.onAir_of_inRange (Header.inRange_of_decode opened)
    · rw [reported, Results.onAir_of_inRange inRange]

theorem reports_survive_power_39 :
    (∃ block,
      decode (encodeReport ⟨39, false, true, 12⟩ ⟨false, false, 40, true, 38, 2, 1⟩) = .ok block
        ∧ block.header = ⟨7, false, true, 12⟩
        ∧ block.results? = some ⟨false, false, 40, true, 38, 2, 1⟩)
      ∧ ∃ again,
        decode (encodeReport ⟨7, false, true, 12⟩ ⟨false, false, 40, true, 38, 2, 1⟩) = .ok again
          ∧ again.header = ⟨7, false, true, 12⟩ := by
  obtain ⟨block, layer3, decoded, header, report, -, -, -, exact⟩ :=
    reports_survive.1 ⟨39, false, true, 12⟩ ⟨false, false, 40, true, 38, 2, 1⟩
  have results := exact ⟨by decide, by decide, by decide, by decide⟩
  obtain ⟨found, again, read, decodedAgain, header', -⟩ :=
    reports_survive.2 _ block _ decoded report rfl
  cases read
  refine ⟨⟨block, decoded, header, results⟩, again, ?_, header'.trans header⟩
  rw [header] at decodedAgain
  exact decodedAgain

end Block

end BaseStation.Sacch

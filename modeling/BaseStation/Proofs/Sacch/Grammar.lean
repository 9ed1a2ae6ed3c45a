import BaseStation.Proofs.Sacch.RoundTrip

namespace BaseStation.Sacch

theorem and_low_half (octet : UInt8) : octet &&& 0x0f = 6 ↔ octet.toNat % 16 = 6 := by
  rw [← UInt8.toNat_inj, UInt8.toNat_and]
  exact Nat.and_two_pow_sub_one_eq_mod octet.toNat 4 ▸ Iff.rfl

namespace Results

/-- The results are what the bits of three octets say: a flag by its bit, a number by the bits it takes up. -/
structure SpelledBy (results : Results) (first second third : UInt8) : Prop where
  neighbourList : results.neighbourList = first.toBitVec.getLsbD 7
  dtxUsed : results.dtxUsed = first.toBitVec.getLsbD 6
  levelFull : results.levelFull.toNat = (first.toBitVec.extractLsb' 0 6).toNat
  valid : results.valid = !second.toBitVec.getLsbD 6
  levelSub : results.levelSub.toNat = (second.toBitVec.extractLsb' 0 6).toNat
  qualityFull : results.qualityFull.toNat = (third.toBitVec.extractLsb' 4 3).toNat
  qualitySub : results.qualitySub.toNat = (third.toBitVec.extractLsb' 1 3).toNat

variable {results results' : Results} {first second third : UInt8}

theorem ofOctets_spelledBy (first second third : UInt8) :
    (ofOctets first second third).SpelledBy first second third := by
  constructor <;>
    simp only [ofOctets, BitVec.getLsbD, BitVec.extractLsb'_toNat, Nat.testBit_eq_decide_div_mod_eq,
      Nat.shiftRight_eq_div_pow, UInt8.toNat_ofNat', UInt8.toNat_toBitVec, Nat.reducePow]
  case levelFull | levelSub | qualityFull | qualitySub => omega
  case valid =>
    have bit : second.toNat / 64 % 2 < 2 := Nat.mod_lt _ (by decide)
    by_cases invalid : second.toNat / 64 % 2 = 1
    · simp [invalid]
    · have valid : second.toNat / 64 % 2 = 0 := by omega
      simp [valid]

theorem SpelledBy.eq (spelled : results.SpelledBy first second third)
    (spelled' : results'.SpelledBy first second third) : results = results' := by
  cases results
  cases results'
  have same {a b : UInt8} {n : Nat} (left : a.toNat = n) (right : b.toNat = n) : a = b :=
    UInt8.toNat_inj.mp (left.trans right.symm)
  congr 1
  · exact spelled.neighbourList.trans spelled'.neighbourList.symm
  · exact spelled.dtxUsed.trans spelled'.dtxUsed.symm
  · exact same spelled.levelFull spelled'.levelFull
  · exact spelled.valid.trans spelled'.valid.symm
  · exact same spelled.levelSub spelled'.levelSub
  · exact same spelled.qualityFull spelled'.qualityFull
  · exact same spelled.qualitySub spelled'.qualitySub

theorem spelledBy_iff : results.SpelledBy first second third ↔ results = ofOctets first second third := by
  constructor
  · intro spelled
    exact spelled.eq (ofOctets_spelledBy first second third)
  · rintro rfl
    exact ofOctets_spelledBy first second third

end Results

namespace Block

/-- An unnumbered information frame on SAPI 0 with a radio resource message in it. -/
structure HoldsMessage (octets : List UInt8) : Prop where
  address : octets[2]? = some 0x01
  control : octets[3]? = some 0x03
  discriminator : octets[5]?.map (· &&& 0x0f) = some 0x06

/-- The octets differ from others at most where nothing is read: in the length octet, in the high half of the
discriminator, and behind the results of the serving cell. -/
structure ReadsAlike (octets other : List UInt8) : Prop where
  places : ∀ place < 10, place ≠ 4 → place ≠ 5 → other[place]? = octets[place]?
  discriminator : other[5]?.map (· &&& 0x0f) = octets[5]?.map (· &&& 0x0f)

variable {octets other : List UInt8} {block block' : Block}

theorem decode_of_length (sized : octets.length = length) : ∃ block, decode octets = .ok block := by
  obtain ⟨header, opened⟩ : ∃ header, Header.decode octets = .ok header := by
    rcases octets with _ | ⟨first, _ | ⟨advance, rest⟩⟩
    · cases sized
    · cases sized
    · exact ⟨_, rfl⟩
  refine ⟨⟨header, reportOf (octets.drop 2), octets⟩, ?_⟩
  simp [decode, sized, opened, bind, Except.bind, pure, Except.pure]

theorem decode_of_length_ne (wrong : octets.length ≠ length) :
    decode octets = .error (.length length octets.length) := by
  simp [decode, wrong, bind, Except.bind, throw, throwThe, MonadExceptOf.throw]

theorem octets_of_length (sized : octets.length = length) :
    ∃ power advance address control size discriminator code first second third rest,
      octets = power :: advance :: address :: control :: size :: discriminator :: code ::
        first :: second :: third :: rest := by
  have long (place : Nat) (near : place < 10) : place < octets.length := by
    rw [sized]
    exact Nat.lt_trans near (by decide)
  have cut (place : Nat) (near : place < 10) :
      ∃ octet, octets.drop place = octet :: octets.drop (place + 1) :=
    ⟨_, List.drop_eq_getElem_cons (long place near)⟩
  obtain ⟨power, cut0⟩ := cut 0 (by decide)
  obtain ⟨advance, cut1⟩ := cut 1 (by decide)
  obtain ⟨address, cut2⟩ := cut 2 (by decide)
  obtain ⟨control, cut3⟩ := cut 3 (by decide)
  obtain ⟨size, cut4⟩ := cut 4 (by decide)
  obtain ⟨discriminator, cut5⟩ := cut 5 (by decide)
  obtain ⟨code, cut6⟩ := cut 6 (by decide)
  obtain ⟨first, cut7⟩ := cut 7 (by decide)
  obtain ⟨second, cut8⟩ := cut 8 (by decide)
  obtain ⟨third, cut9⟩ := cut 9 (by decide)
  refine ⟨power, advance, address, control, size, discriminator, code, first, second, third,
    octets.drop 10, ?_⟩
  rw [← cut9, ← cut8, ← cut7, ← cut6, ← cut5, ← cut4, ← cut3, ← cut2, ← cut1, ← cut0, List.drop_zero]

theorem ofCode?_eq_some {code : UInt8} {type : ReportType} :
    ReportType.ofCode? code = some type ↔ code = type.code := by
  constructor
  · intro known
    unfold ReportType.ofCode? at known
    split at known
    · cases known
      assumption
    · split at known
      · cases known
        assumption
      · cases known
  · rintro rfl
    cases type <;> rfl

theorem reportOf_eq_some (sized : octets.length = length) (report : Report) :
    reportOf (octets.drop 2) = some report ↔
      HoldsMessage octets ∧ octets[6]? = some report.type.code ∧
        ∃ first second third, octets[7]? = some first ∧ octets[8]? = some second ∧ octets[9]? = some third ∧
          report.results =
            if report.type = .measurement then some (Results.ofOctets first second third) else none := by
  obtain ⟨power, advance, address, control, size, discriminator, code, first, second, third, rest, rfl⟩ :=
    octets_of_length sized
  have holds : HoldsMessage (power :: advance :: address :: control :: size :: discriminator :: code ::
      first :: second :: third :: rest) ↔
        address = lapdmAddress ∧ control = lapdmControl ∧ discriminator.toNat % 16 = radioResource := by
    rw [radioResource, ← and_low_half]
    constructor
    · rintro ⟨address, control, discriminator⟩
      exact ⟨Option.some.inj address, Option.some.inj control, Option.some.inj discriminator⟩
    · rintro ⟨address, control, discriminator⟩
      exact ⟨congrArg some address, congrArg some control, congrArg some discriminator⟩
  have reads : reportOf (address :: control :: size :: discriminator :: code :: first :: second :: third :: rest) =
      if address = lapdmAddress ∧ control = lapdmControl ∧ discriminator.toNat % 16 = radioResource then
        (ReportType.ofCode? code).map fun type =>
          ⟨type, if type = .measurement then some (Results.ofOctets first second third) else none⟩
      else none := by
    rw [reportOf]
    split
    · cases ReportType.ofCode? code with
      | none => rfl
      | some type => cases type <;> rfl
    · rfl
  obtain ⟨type, results⟩ := report
  rw [holds, List.drop_succ_cons, List.drop_succ_cons, List.drop_zero, reads]
  simp only [Option.ite_none_right_eq_some, Option.map_eq_some_iff, ofCode?_eq_some, List.getElem?_cons_succ,
    List.getElem?_cons_zero, Option.some.injEq, Report.mk.injEq]
  constructor
  · rintro ⟨framed, known, coded, rfl, rfl⟩
    exact ⟨framed, coded, first, second, third, rfl, rfl, rfl, rfl⟩
  · rintro ⟨framed, coded, _, _, _, rfl, rfl, rfl, read⟩
    exact ⟨framed, type, coded, rfl, read.symm⟩

theorem reportOf_congr (sized : octets.length = length) (sized' : other.length = length)
    (alike : ReadsAlike octets other) : reportOf (other.drop 2) = reportOf (octets.drop 2) := by
  have holds : HoldsMessage other ↔ HoldsMessage octets := by
    constructor
    · rintro ⟨address, control, discriminator⟩
      exact ⟨alike.places 2 (by decide) (by decide) (by decide) ▸ address,
        alike.places 3 (by decide) (by decide) (by decide) ▸ control, alike.discriminator ▸ discriminator⟩
    · rintro ⟨address, control, discriminator⟩
      exact ⟨(alike.places 2 (by decide) (by decide) (by decide)).trans address,
        (alike.places 3 (by decide) (by decide) (by decide)).trans control,
        alike.discriminator.trans discriminator⟩
  refine Option.ext fun report => ?_
  rw [reportOf_eq_some sized, reportOf_eq_some sized', holds, alike.places 6 (by decide) (by decide) (by decide),
    alike.places 7 (by decide) (by decide) (by decide), alike.places 8 (by decide) (by decide) (by decide),
    alike.places 9 (by decide) (by decide) (by decide)]

theorem headerDecode_congr (sized : octets.length = length) (sized' : other.length = length)
    (alike : ReadsAlike octets other) : Header.decode other = Header.decode octets := by
  have first := alike.places 0 (by decide) (by decide) (by decide)
  have second := alike.places 1 (by decide) (by decide) (by decide)
  obtain ⟨power, advance, _, _, _, _, _, _, _, _, _, rfl⟩ := octets_of_length sized
  obtain ⟨power', advance', _, _, _, _, _, _, _, _, _, rfl⟩ := octets_of_length sized'
  cases first
  cases second
  rfl

section decoded

variable (decoded : decode octets = .ok block)

include decoded

theorem report_eq_some (report : Report) : block.report = some report ↔
    HoldsMessage octets ∧ octets[6]? = some report.type.code ∧
      ∃ first second third, octets[7]? = some first ∧ octets[8]? = some second ∧ octets[9]? = some third ∧
        report.results =
          if report.type = .measurement then some (Results.ofOctets first second third) else none := by
  obtain ⟨sized, _, reported, _⟩ := decode_eq_ok decoded
  exact reported ▸ reportOf_eq_some sized report

theorem report_of_holds {type : ReportType} (holds : HoldsMessage octets) (coded : octets[6]? = some type.code) :
    ∃ first second third, octets[7]? = some first ∧ octets[8]? = some second ∧ octets[9]? = some third ∧
      block.report =
        some ⟨type, if type = .measurement then some (Results.ofOctets first second third) else none⟩ := by
  have sized := (decode_eq_ok decoded).1
  have present (place : Nat) (near : place < 10) : ∃ octet, octets[place]? = some octet :=
    ⟨_, List.getElem?_eq_getElem (by rw [sized]; exact Nat.lt_trans near (by decide))⟩
  obtain ⟨first, first_at⟩ := present 7 (by decide)
  obtain ⟨second, second_at⟩ := present 8 (by decide)
  obtain ⟨third, third_at⟩ := present 9 (by decide)
  exact ⟨first, second, third, first_at, second_at, third_at,
    (report_eq_some decoded _).mpr ⟨holds, coded, first, second, third, first_at, second_at, third_at, rfl⟩⟩

theorem report_isSome_iff : block.report.isSome = true ↔
    HoldsMessage octets ∧ (octets[6]? = some 0x15 ∨ octets[6]? = some 0x36) := by
  constructor
  · intro carries
    obtain ⟨⟨type, _⟩, report⟩ := Option.isSome_iff_exists.mp carries
    obtain ⟨holds, coded, _⟩ := (report_eq_some decoded _).mp report
    refine ⟨holds, ?_⟩
    cases type with
    | measurement => exact .inl coded
    | extended => exact .inr coded
  · rintro ⟨holds, coded⟩
    obtain ⟨type, coded⟩ : ∃ type : ReportType, octets[6]? = some type.code := by
      rcases coded with plain | extended
      · exact ⟨.measurement, plain⟩
      · exact ⟨.extended, extended⟩
    obtain ⟨_, _, _, _, _, _, found⟩ := report_of_holds decoded holds coded
    rw [found]
    rfl

theorem results?_eq_some (results : Results) : block.results? = some results ↔
    HoldsMessage octets ∧ octets[6]? = some 0x15 ∧ ∃ first second third,
      octets[7]? = some first ∧ octets[8]? = some second ∧ octets[9]? = some third ∧
        results.SpelledBy first second third := by
  constructor
  · intro read
    obtain ⟨⟨type, _⟩, report, rfl⟩ := Option.bind_eq_some_iff.mp read
    obtain ⟨holds, coded, first, second, third, first_at, second_at, third_at, read⟩ :=
      (report_eq_some decoded _).mp report
    cases type with
    | extended => cases read
    | measurement =>
      exact ⟨holds, coded, first, second, third, first_at, second_at, third_at,
        Results.spelledBy_iff.mpr (Option.some.inj read)⟩
  · rintro ⟨holds, coded, first, second, third, first_at, second_at, third_at, spelled⟩
    have found : block.report = some ⟨.measurement, some (Results.ofOctets first second third)⟩ :=
      (report_eq_some decoded _).mpr ⟨holds, coded, first, second, third, first_at, second_at, third_at, rfl⟩
    rw [results?, found, Results.spelledBy_iff.mp spelled]
    rfl

theorem layer3?_eq : block.layer3? = if block.report.isSome then some (octets.extract 5 23) else none := by
  obtain ⟨sized, _, _, kept⟩ := decode_eq_ok decoded
  have whole : octets.extract 5 23 = octets.drop layer3Offset := by
    rw [List.extract_eq_take_drop]
    exact List.take_of_length_le (by rw [List.length_drop, sized]; decide)
  rw [layer3?, kept, whole]
  cases block.report <;> rfl

theorem reads_alike (decoded' : decode other = .ok block') (alike : ReadsAlike octets other) :
    block'.header = block.header ∧ block'.report = block.report := by
  obtain ⟨sized, opened, reported, _⟩ := decode_eq_ok decoded
  obtain ⟨sized', opened', reported', _⟩ := decode_eq_ok decoded'
  constructor
  · rw [headerDecode_congr sized sized' alike, opened] at opened'
    exact (Except.ok.inj opened').symm
  · rw [reported', reported, reportOf_congr sized sized' alike]

end decoded

/-- Exactly the blocks of 23 octets are decoded. A block carries a report exactly if it holds a radio resource
message of one of the two report types; the results of the serving cell are decoded exactly from a plain report,
bit by bit, and the layer 3 part goes with a report as it stands. No other octet has a say in what is read. -/
theorem decodes_exactly (octets : List UInt8) :
    ((∃ block, decode octets = .ok block) ↔ octets.length = 23) ∧
    (octets.length ≠ 23 → decode octets = .error (.length 23 octets.length)) ∧
    ∀ block, decode octets = .ok block →
      (block.report.isSome = true ↔
        HoldsMessage octets ∧ (octets[6]? = some 0x15 ∨ octets[6]? = some 0x36)) ∧
      (∀ report, block.report = some report → octets[6]? = some report.type.code) ∧
      (∀ results, block.results? = some results ↔
        HoldsMessage octets ∧ octets[6]? = some 0x15 ∧ ∃ first second third,
          octets[7]? = some first ∧ octets[8]? = some second ∧ octets[9]? = some third ∧
            results.SpelledBy first second third) ∧
      block.layer3? = (if block.report.isSome then some (octets.extract 5 23) else none) ∧
      ∀ other block', decode other = .ok block' → ReadsAlike octets other →
        block'.header = block.header ∧ block'.report = block.report := by
  refine ⟨⟨fun ⟨block, decoded⟩ => (decode_eq_ok decoded).1, decode_of_length⟩, decode_of_length_ne, ?_⟩
  intro block decoded
  refine ⟨report_isSome_iff decoded, fun report found => ?_, results?_eq_some decoded, layer3?_eq decoded, ?_⟩
  · exact ((report_eq_some decoded report).mp found).2.1
  · intro other block' decoded' alike
    exact reads_alike decoded decoded' alike

theorem decodes_exactly_spare :
    ∃ block block',
      decode ([0x07, 0x0c, 0x01, 0x03, 0xff, 0xa6, 0x15, 0x28, 0x66, 0x22] ++ List.replicate 13 0x2b) = .ok block ∧
      decode ([0x07, 0x0c, 0x01, 0x03, 0x49, 0x06, 0x15, 0x28, 0x66, 0x22] ++ List.replicate 13 0) = .ok block' ∧
      block.results? = some ⟨false, false, 40, false, 38, 2, 1⟩ ∧
      block.layer3? = some ([0xa6, 0x15, 0x28, 0x66, 0x22] ++ List.replicate 13 0x2b) ∧
      block'.header = block.header ∧ block'.report = block.report := by
  obtain ⟨accepts, -, reads⟩ := decodes_exactly
    ([0x07, 0x0c, 0x01, 0x03, 0xff, 0xa6, 0x15, 0x28, 0x66, 0x22] ++ List.replicate 13 0x2b)
  obtain ⟨block, decoded⟩ := accepts.mpr rfl
  obtain ⟨block', decoded'⟩ := (decodes_exactly
    ([0x07, 0x0c, 0x01, 0x03, 0x49, 0x06, 0x15, 0x28, 0x66, 0x22] ++ List.replicate 13 0)).1.mpr rfl
  have framed : HoldsMessage
      ([0x07, 0x0c, 0x01, 0x03, 0xff, 0xa6, 0x15, 0x28, 0x66, 0x22] ++ List.replicate 13 0x2b) := ⟨rfl, rfl, rfl⟩
  obtain ⟨reported, -, measured, forwarded, alike⟩ := reads block decoded
  have carried := reported.mpr ⟨framed, .inl rfl⟩
  refine ⟨block, block', decoded, decoded', ?_, ?_, alike _ block' decoded' ⟨by decide, rfl⟩⟩
  · exact (measured _).mpr ⟨framed, rfl, 0x28, 0x66, 0x22, rfl, rfl, rfl, by constructor <;> decide⟩
  · rw [forwarded, carried]
    rfl

end Block

end BaseStation.Sacch

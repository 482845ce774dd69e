import Mathlib.Data.List.TakeWhile
import AprsWx.WeatherLoop

/-!
# Decoding by consumption

`decode` works with positions in the whole packet. What it computes is a function of the
name and of the text after the first `':'`, consumed from the left: `parse`. This module
defines `parse` and proves that `decode` computes it, and that `decode` goes past the
end of the packet exactly where `parse` finds the text too short (`decode_run`).
-/

namespace AprsWx

open Double Prog

variable {F : Type} [CDouble F]

/-! ## The weather -/

/-- The wind values at the start of `text`, with one character between them. -/
def windValues (text : List Char) (wxReport : AprsWxReport F) : AprsWxReport F :=
  storeWeatherValue
    (storeWeatherValue wxReport .WindDirection '\x00' (numberIn (text.take 3) (ofRat 1)))
    .WindSpeed '\x00' (numberIn ((text.drop 4).take 3) (ofRat 1))

/-- The report after the fields of `text`, which starts with the wind direction. -/
def weatherReport (mQthPosition : AprsPosition F) (mRadius : Option F) (text : List Char)
    (wxReport : AprsWxReport F) : AprsWxReport F :=
  let wxReport := weatherFields (text.drop 7) (windValues text wxReport)
  let wxReport := { wxReport with toAprsPosition := wxReport.toAprsPosition.located mQthPosition }
  { wxReport with
    mHannValue := hannValue mRadius wxReport.mDistance wxReport.mHannValue
    mPacketStatus := .WxPacket }

@[simp] theorem storeWeatherValue_toAprsPosition (wxReport : AprsWxReport F) (wxSym : WxSym)
    (valueFlag : Char) (number : Option F) :
    (storeWeatherValue wxReport wxSym valueFlag number).toAprsPosition =
      wxReport.toAprsPosition := by
  cases number <;> rfl

@[simp] theorem storeWeatherValue_mDateTime (wxReport : AprsWxReport F) (wxSym : WxSym)
    (valueFlag : Char) (number : Option F) :
    (storeWeatherValue wxReport wxSym valueFlag number).mDateTime = wxReport.mDateTime := by
  cases number <;> rfl

/-- The weather fields leave everything but the weather values alone. -/
theorem weatherFields_frame (text : List Char) (wxReport : AprsWxReport F) :
    (weatherFields text wxReport).toAprsPosition = wxReport.toAprsPosition ∧
      (weatherFields text wxReport).mDateTime = wxReport.mDateTime := by
  induction text, wxReport using weatherFields.induct (F := F) with
  | case1 wxReport => rw [weatherFields]; exact ⟨rfl, rfl⟩
  | case2 wxReport flag text hitem =>
    rw [weatherFields, hitem]
    exact ⟨rfl, rfl⟩
  | case3 wxReport flag text item hitem width ih =>
    rw [weatherFields, hitem]
    simpa using ih

/-- A weather report has the packet data and the coordinates that were decoded before the
weather. -/
theorem weatherReport_frame (mQthPosition : AprsPosition F) (mRadius : Option F) (text : List Char)
    (wxReport : AprsWxReport F) :
    (weatherReport mQthPosition mRadius text wxReport).toAprsPacket =
        { wxReport.toAprsPacket with mPacketStatus := .WxPacket } ∧
      (weatherReport mQthPosition mRadius text wxReport).mLat = wxReport.mLat ∧
      (weatherReport mQthPosition mRadius text wxReport).mLon = wxReport.mLon ∧
      (weatherReport mQthPosition mRadius text wxReport).mDateTime = wxReport.mDateTime := by
  obtain ⟨position, mDateTime⟩ := weatherFields_frame (text.drop 7) (windValues text wxReport)
  have wind : (windValues text wxReport).toAprsPosition = wxReport.toAprsPosition ∧
      (windValues text wxReport).mDateTime = wxReport.mDateTime := by
    constructor <;> simp [windValues]
  rw [wind.1] at position
  rw [wind.2] at mDateTime
  obtain ⟨packet, mLat, mLon⟩ := wxReport.toAprsPosition.located_frame mQthPosition
  unfold weatherReport
  generalize weatherFields (text.drop 7) (windValues text wxReport) = fields at position mDateTime
  refine ⟨?_, ?_, ?_, mDateTime⟩
  · simp only [position, packet]
  · simp only [position, mLat]
  · simp only [position, mLon]

/-! ## Packets -/

/-- The text before the first `c`, all of it where there is none. -/
def textBefore (c : Char) (text : List Char) : List Char := text.takeWhile (· ≠ c)

/-- The text after the first `':'`. Without one, `find` gives `npos`, which wraps to 0 when
`positionAfter` adds one: the whole text. -/
def payload (text : List Char) : List Char :=
  if ':' ∈ text then (text.dropWhile (· ≠ ':')).tail else text

/-- The length of the time stamp after a discriminator. -/
def timeLength (descriminator : Char) : Nat :=
  if descriminator = '@' ∨ descriminator = '/' then 7 else 0

/-- The report that a payload `text` after its discriminator and time stamp holds; `none`
where the text ends too early. -/
def parseReport (mQthPosition : AprsPosition F) (mRadius : Option F) (text : List Char)
    (wxReport : AprsWxReport F) : Option (AprsWxReport F) :=
  if text.length < 7 then none
  else match coordinateAt .LatitudeDDMMsss text with
    | none => some { wxReport with mPacketStatus := .ErrorLatitude }
    | some mLat =>
      let wxReport := { wxReport with
        mLat := some mLat, mSymTableId := (text.drop 8).headD '\x00' }
      if text.length < 17 then none
      else match coordinateAt .LongitudeDDMMsss (text.drop 9) with
        | none => some { wxReport with mPacketStatus := .ErrorLongitude }
        | some mLon =>
          if text.length < 23 then none
          else some (weatherReport mQthPosition mRadius (text.drop 19)
            { wxReport with mLon := some mLon, mSymCode := (text.drop 18).headD '\x00' })

/-- The packet that a payload holds; `none` where the text ends too early. -/
def parse (now : Int) (mQthPosition : AprsPosition F) (mRadius : Option F) (name : List Char) :
    List Char → Option (Decoded F)
  | [] => some (.packet { mTimePoint := now })
  | descriminator :: text =>
    if IsReport descriminator then
      (parseReport mQthPosition mRadius (text.drop (timeLength descriminator))
        { mName := name, mTimePoint := now,
          mDateTime := text.take (timeLength descriminator) }).map .report
    else some (.packet { mPacketStatus := .DecodingError, mTimePoint := now })

/-! ## decode computes parse -/

theorem stringTerminateBy_run {F : Type} {s : AprsIs F} {c : Char} (h : s.p0 = 0) :
    ∃ k, (stringTerminateBy c).run s = .ok (textBefore c s.mPacket.chars) { s with p1 := k } := by
  have hsize := s.mPacket.size_lt
  refine ⟨s.mPacket.find c 0, ?_⟩
  have hname : s.mPacket.chars.take (subSize (s.mPacket.find c 0) 0) =
      textBefore c s.mPacket.chars := by
    unfold StdString.find textBefore
    rw [List.drop_zero]
    rcases idxOf?_cases c s.mPacket.chars with ⟨hnone, hmem⟩ | ⟨i, hsome, hi, -, htake, -⟩
    · rw [hnone, List.takeWhile_eq_self_iff.mpr (by
        intro a ha
        have hac : a ≠ c := fun hac => hmem (hac ▸ ha)
        simpa using hac)]
      refine List.take_of_length_le ?_
      show s.mPacket.size ≤ subSize npos 0
      rw [subSize_zero]
      unfold npos
      omega
    · rw [hsome, ← htake]
      simp only [subSize_zero, Nat.zero_add]
  unfold stringTerminateBy StdString.substr
  simp only [EStateM.run_bind, EStateM.run_get, EStateM.run_set, h, Nat.zero_le, if_true,
    List.drop_zero, EStateM.run_pure, hname]

theorem positionAfter_run {F : Type} {s : AprsIs F} (h : s.p0 = 0) :
    ∃ n, (positionAfter ':').run s = .ok n (s.moved n) ∧ n ≤ s.mPacket.size ∧
      (s.moved n).rest = payload s.mPacket.chars := by
  have hsize := s.mPacket.size_lt
  refine ⟨addSize (s.mPacket.find ':' 0) 1, ?_, ?_⟩
  · simp only [positionAfter, positionAt, EStateM.run_bind, EStateM.run_get, EStateM.run_set,
      EStateM.run_pure, EStateM.run_modify, h]
    rfl
  · unfold StdString.find payload AprsIs.rest
    rw [List.drop_zero]
    rcases idxOf?_cases ':' s.mPacket.chars with ⟨hnone, hmem⟩ | ⟨i, hsome, hi, hmem, -, hdrop⟩
    -- npos + 1 wraps around to the start of the packet
    · rw [hnone, if_neg hmem]
      simp only [addSize_npos]
      exact ⟨Nat.zero_le _, List.drop_zero⟩
    · have hi' : i < s.mPacket.size := hi
      rw [hsome, if_pos hmem, ← hdrop]
      simp only [Nat.zero_add, addSize_eq (show i + 1 < 2 ^ 64 by omega)]
      exact ⟨hi', rfl⟩

@[simp] theorem digits_windDirection : (weatherItemAt WxSym.WindDirection.idx).digits = 3 := rfl

@[simp] theorem digits_windSpeed : (weatherItemAt WxSym.WindSpeed.idx).digits = 3 := rfl

theorem decodeWind_run (wxReport : AprsWxReport F) {s : AprsIs F} (h : s.p0 + 4 ≤ s.mPacket.size) :
    (decodeWind wxReport).run s = .ok (windValues s.rest wxReport) (s.moved (s.p0 + 7)) := by
  have near : s.p0 + 3 ≤ s.mPacket.size + 100 := by omega
  have hp := addSize_cursor (s := s.moved (s.p0 + 3)) (n := 1) near (by omega)
  have h1 := decodeWeatherValue_run wxReport .WindDirection '\x00' (ofRat 1) (s := s) (by omega)
  have h2 := fun r => decodeWeatherValue_run r .WindSpeed '\x00' (ofRat 1) (s := s.moved (s.p0 + 4)) h
  simp only [AprsIs.moved_p0, AprsIs.moved_moved, s.rest_moved, digits_windDirection,
    digits_windSpeed, Nat.add_assoc, Nat.reduceAdd] at hp h1 h2
  simp only [decodeWind, EStateM.run_bind, h1, EStateM.run_modify, AprsIs.moved_p0, hp,
    AprsIs.moved_moved, h2, windValues]

theorem decodeWeather_run {wxReport : AprsWxReport F} {s : AprsIs F}
    (h : s.p0 + 4 ≤ s.mPacket.size) (hlat : wxReport.mLat.isSome) :
    ∃ n, (decodeWeather wxReport).run s =
      .ok (weatherReport s.mQthPosition s.mRadius s.rest wxReport) (s.moved n) := by
  have hwind := decodeWind_run wxReport h
  have enough : s.mPacket.size - (s.p0 + 7) < s.mPacket.size + 1 := by omega
  obtain ⟨n, -, hloop⟩ := weatherLoop_run (s.mPacket.size + 1) (s.moved (s.p0 + 7))
    (windValues s.rest wxReport) enough
  have hframe := (weatherFields_frame (s.rest.drop 7) (windValues s.rest wxReport)).1
  rw [s.rest_moved 7] at hloop
  unfold weatherReport
  generalize weatherFields (s.rest.drop 7) (windValues s.rest wxReport) = r at hloop hframe ⊢
  obtain ⟨b, hpos⟩ := AprsPosition.setBearingDistance_eq (σ := AprsIs F) r.toAprsPosition
    s.mQthPosition (by rw [hframe]; simpa [windValues] using hlat)
  refine ⟨subSize n 1, ?_⟩
  simp only [decodeWeather, EStateM.run_bind, hwind, EStateM.run_modify, AprsIs.moved_moved,
    AprsIs.moved_p0, EStateM.run_get, AprsIs.moved_mPacket, hloop, AprsIs.moved_mQthPosition, hpos,
    EStateM.run_pure, AprsIs.moved_mRadius]

theorem decodeWeather_pastEnd {s : AprsIs F} {wxReport : AprsWxReport F}
    (h : s.mPacket.size < s.p0 + 4) : PastEnd (decodeWeather wxReport) s := by
  unfold decodeWeather decodeWind
  refine PastEnd.bind ?_ _
  rcases Nat.lt_or_ge s.mPacket.size s.p0 with past | direction_in
  · exact ((decodeValueDouble_pastEnd past).bind _).bind _
  have near : s.p0 + 3 ≤ s.mPacket.size + 100 := by omega
  have hp := addSize_cursor (s := s.moved (s.p0 + 3)) (n := 1) near (by omega)
  refine .of_bind (decodeWeatherValue_run _ _ _ _ direction_in) ?_
  simp only [digits_windDirection]
  refine .of_bind (EStateM.run_modify _ _) ?_
  rw [hp]
  have h2 : s.mPacket.size < s.p0 + 3 + 1 := h
  exact (decodeValueDouble_pastEnd h2).bind _

theorem hemisphere_of_coordinateValue {t : CoordinateType} {degrees : Option Int}
    {minutes : Option F} {c : Char} {v : F} (h : coordinateValue t degrees minutes c = some v) :
    c = t.positiveChar ∨ c = t.negativeChar := by
  unfold coordinateValue at h
  split at h
  · by_contra hc
    rw [not_or] at hc
    rw [if_neg hc.1, if_neg hc.2] at h
    cases h
  · cases h

/-- A coordinate ends in its hemisphere letter, so its text is complete. -/
theorem length_of_coordinateAt {t : CoordinateType} {text : List Char} {v : F}
    (h : coordinateAt t text = some v) : t.width ≤ text.length := by
  by_contra hlt
  have hnil : text.drop (t.degreeLength + t.minuteLength) = [] := by
    refine List.drop_eq_nil_of_le ?_
    unfold CoordinateType.width at hlt
    omega
  have hletter := hemisphere_of_coordinateValue h
  rw [hnil] at hletter
  revert hletter
  cases t <;> decide

theorem decodePosition_run (wxReport : AprsWxReport F) (s : AprsIs F) :
    match parseReport s.mQthPosition s.mRadius s.rest wxReport with
    | some r => ∃ n, (decodePosition wxReport).run s = .ok (.report r) (s.moved n)
    | none => PastEnd (decodePosition wxReport) s := by
  have hlen := s.length_rest
  unfold parseReport decodePosition
  rcases Nat.lt_or_ge s.rest.length 7 with hlat | latitude
  · rw [if_pos hlat]
    have cut : s.mPacket.size + 1 < s.p0 + 8 := by omega
    exact (decodeCoordinate_pastEnd (t := .LatitudeDDMMsss) cut).bind _
  rw [if_neg (Nat.not_lt.mpr latitude)]
  have lat_in : s.p0 + 8 ≤ s.mPacket.size + 1 := by omega
  have h1 := decodeCoordinate_run (F := F) (t := .LatitudeDDMMsss) lat_in
  cases hmLat : (coordinateAt .LatitudeDDMMsss s.rest : Option F) with
  | none =>
    rw [hmLat] at h1
    exact ⟨_, by rw [EStateM.run_bind, h1]; rfl⟩
  | some mLat =>
    rw [hmLat] at h1
    -- a latitude that converts has its hemisphere letter, so the table's symbol is in the text
    have hw : 8 ≤ s.rest.length := length_of_coordinateAt hmLat
    simp only [CoordinateType.width, CoordinateType.degreeLength, CoordinateType.minuteLength,
      Nat.reduceAdd] at h1
    have table_in : s.p0 + 8 ≤ s.mPacket.size := by omega
    have hc1 := decodeCharAtIndex_run (s := s.moved (s.p0 + 8)) table_in
    simp only [AprsIs.moved_p0, AprsIs.moved_moved, s.rest_moved] at hc1
    rcases Nat.lt_or_ge s.rest.length 17 with hlon | longitude
    · simp only [if_pos hlon]
      refine .of_bind h1 (.of_bind hc1 ?_)
      have cut : s.mPacket.size + 1 < s.p0 + 8 + 1 + 9 := by omega
      exact (decodeCoordinate_pastEnd (t := .LongitudeDDMMsss) cut).bind _
    simp only [if_neg (Nat.not_lt.mpr longitude)]
    have lon_in : s.p0 + 9 + 9 ≤ s.mPacket.size + 1 := by omega
    have h2 := decodeCoordinate_run (F := F) (t := .LongitudeDDMMsss) (s := s.moved (s.p0 + 9)) lon_in
    rw [s.rest_moved] at h2
    cases hmLon : (coordinateAt .LongitudeDDMMsss (s.rest.drop 9) : Option F) with
    | none =>
      rw [hmLon] at h2
      exact ⟨_, by rw [EStateM.run_bind, h1]; simp only [EStateM.run_bind, hc1, h2]; rfl⟩
    | some mLon =>
      rw [hmLon] at h2
      have hw2 : 9 ≤ (s.rest.drop 9).length := length_of_coordinateAt hmLon
      rw [List.length_drop] at hw2
      simp only [CoordinateType.width, CoordinateType.degreeLength, CoordinateType.minuteLength,
        Nat.reduceAdd, AprsIs.moved_p0, AprsIs.moved_moved, Nat.add_assoc] at h2
      have code_in : s.p0 + 18 ≤ s.mPacket.size := by omega
      have hc2 := decodeCharAtIndex_run (s := s.moved (s.p0 + 18)) code_in
      simp only [AprsIs.moved_p0, AprsIs.moved_moved, s.rest_moved] at hc2
      rcases Nat.lt_or_ge s.rest.length 23 with hwx | weather
      · simp only [if_pos hwx]
        refine .of_bind h1 (.of_bind hc1 (.of_bind h2 (.of_bind hc2 ?_)))
        have cut : s.mPacket.size < s.p0 + 18 + 1 + 4 := by omega
        exact (decodeWeather_pastEnd cut).bind _
      · simp only [if_neg (Nat.not_lt.mpr weather)]
        have hlat : ({ wxReport with
            mLat := some mLat, mSymTableId := (s.rest.drop 8).headD '\x00'
            mLon := some mLon, mSymCode := (s.rest.drop 18).headD '\x00' } :
            AprsWxReport F).mLat.isSome := rfl
        have wind_in : s.p0 + 19 + 4 ≤ s.mPacket.size := by omega
        obtain ⟨n, h3⟩ := decodeWeather_run (s := s.moved (s.p0 + 19)) wind_in hlat
        simp only [AprsIs.moved_moved, s.rest_moved, AprsIs.moved_mQthPosition,
          AprsIs.moved_mRadius] at h3
        refine ⟨n, ?_⟩
        simp only [EStateM.run_bind, h1, hc1, h2, hc2, h3, EStateM.run_pure, Nat.add_assoc,
          Nat.reduceAdd]

theorem decodeReport_run (now : Int) (name : List Char) (descriminator : Char) {s : AprsIs F}
    (h : s.p0 ≤ s.mPacket.size) :
    match parseReport s.mQthPosition s.mRadius (s.rest.drop (timeLength descriminator))
        { mName := name, mTimePoint := now, mDateTime := s.rest.take (timeLength descriminator) } with
    | some r => ∃ n, (decodeReport now name descriminator).run s = .ok (.report r) (s.moved n)
    | none => PastEnd (decodeReport now name descriminator) s := by
  unfold timeLength decodeReport
  by_cases htime : descriminator = '@' ∨ descriminator = '/'
  · simp only [if_pos htime]
    have hstr := decodeString_run h (show 7 ≤ 100 by omega)
    have hpos := decodePosition_run
      { mName := name, mTimePoint := now, mDateTime := s.rest.take 7 } (s.moved (s.p0 + 7))
    simp only [AprsIs.moved_mQthPosition, AprsIs.moved_mRadius, s.rest_moved,
      AprsIs.moved_moved] at hpos
    split at hpos
    · obtain ⟨n, hn⟩ := hpos
      exact ⟨n, by rw [EStateM.run_bind, hstr]; exact hn⟩
    · exact .of_bind hstr hpos
  · simp only [if_neg htime]
    exact decodePosition_run _ s

theorem decodePayload_run (now : Int) (name : List Char) {s : AprsIs F}
    (h : s.p0 ≤ s.mPacket.size) :
    match parse now s.mQthPosition s.mRadius name s.rest with
    | some d => ∃ n, (decodePayload now name).run s = .ok d (s.moved n)
    | none => PastEnd (decodePayload now name) s := by
  have hsize := s.mPacket.size_lt
  have hlen := s.length_rest
  have hnpos : s.p0 ≠ npos := by
    unfold npos
    omega
  unfold decodePayload
  cases hrest : s.rest with
  | nil =>
    rw [hrest, List.length_nil] at hlen
    refine ⟨s.p0, ?_⟩
    simp only [EStateM.run_bind, EStateM.run_get, if_neg (show ¬ (s.p0 < s.mPacket.size ∧
      s.p0 ≠ npos) by omega), EStateM.run_pure]
    rfl
  | cons descriminator text =>
    rw [hrest, List.length_cons] at hlen
    have hlt : s.p0 < s.mPacket.size ∧ s.p0 ≠ npos := ⟨by omega, hnpos⟩
    have hc := decodeCharAtIndex_run h
    rw [hrest, List.headD_cons] at hc
    have htext : (s.moved (s.p0 + 1)).rest = text := by
      rw [s.rest_moved, hrest]
      rfl
    unfold parse
    by_cases hd : IsReport descriminator
    · have hreport := decodeReport_run now name descriminator
        (s := s.moved (s.p0 + 1)) hlt.1
      simp only [AprsIs.moved_mQthPosition, AprsIs.moved_mRadius, htext, AprsIs.moved_moved] at hreport
      simp only [if_pos hd]
      split at hreport
      · next r hr =>
        obtain ⟨n, hn⟩ := hreport
        simp only [hr, Option.map_some]
        refine ⟨n, ?_⟩
        simp only [EStateM.run_bind, EStateM.run_get, if_pos hlt, hc]
        rw [if_pos hd]
        exact hn
      · next hr =>
        simp only [hr, Option.map_none]
        refine .of_bind (EStateM.run_get s) ?_
        rw [if_pos hlt]
        refine .of_bind hc ?_
        rw [if_pos hd]
        exact hreport
    · simp only [if_neg hd]
      refine ⟨s.p0 + 1, ?_⟩
      simp only [EStateM.run_bind, EStateM.run_get, if_pos hlt, hc]
      rw [if_neg hd]
      rfl

/-- `decode` of a received packet is `parse` of its payload. It stops, past the end of the
packet, where the payload is too short for `parse`. -/
theorem decode_run (now : Int) (s : AprsIs F) (packet : StdString) :
    match parse now s.mQthPosition s.mRadius (textBefore '>' packet.chars)
        (payload packet.chars) with
    | some d => ∃ n k, (decode now).run (s.received packet) =
        .ok d { s.received packet with p0 := n, p1 := k }
    | none => PastEnd (decode now) (s.received packet) := by
  obtain ⟨k, hname⟩ := stringTerminateBy_run (s := s.received packet) (c := '>') rfl
  obtain ⟨n, hafter, hn, hrest⟩ := positionAfter_run (s := { s.received packet with p1 := k }) rfl
  have hpayload := decodePayload_run now (textBefore '>' packet.chars)
    (s := { s.received packet with p1 := k }.moved n) hn
  rw [hrest] at hpayload
  change match parse now s.mQthPosition s.mRadius (textBefore '>' packet.chars)
      (payload packet.chars) with
    | some _ => _
    | none => _ at hpayload
  unfold decode
  cases hd : parse now s.mQthPosition s.mRadius (textBefore '>' packet.chars)
      (payload packet.chars) with
  | some d =>
    rw [hd] at hpayload
    obtain ⟨m, hm⟩ := hpayload
    refine ⟨m, k, ?_⟩
    simp only [EStateM.run_bind, hname, hafter]
    exact hm
  | none =>
    rw [hd] at hpayload
    exact .of_bind hname (.of_bind hafter hpayload)

theorem decode_of_parse {now : Int} {s : AprsIs F} {packet : StdString} {d : Decoded F}
    (parsed : parse now s.mQthPosition s.mRadius (textBefore '>' packet.chars)
      (payload packet.chars) = some d) :
    ∃ t, (decode now).run (s.received packet) = .ok d t := by
  have run := decode_run now s packet
  rw [parsed] at run
  obtain ⟨n, k, returned⟩ := run
  exact ⟨_, returned⟩

/-- What `decode` returns is what `parse` makes of the payload. -/
theorem parse_of_decode {now : Int} {s t : AprsIs F} {packet : StdString} {d : Decoded F}
    (decoded : (decode now).run (s.received packet) = .ok d t) :
    parse now s.mQthPosition s.mRadius (textBefore '>' packet.chars) (payload packet.chars) =
      some d := by
  have run := decode_run now s packet
  cases parsed : parse now s.mQthPosition s.mRadius (textBefore '>' packet.chars)
      (payload packet.chars) with
  | some d' =>
    rw [parsed] at run
    obtain ⟨n, k, returned⟩ := run
    rw [returned] at decoded
    cases decoded
    rfl
  | none =>
    rw [parsed] at run
    obtain ⟨e, u, stopped, -⟩ := run
    rw [stopped] at decoded
    cases decoded

end AprsWx

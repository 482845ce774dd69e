import AprsWx.Aggregator
import AprsWx.Truncation

/-!
# Weather reports

Which packets `decode` takes for weather reports, and what such a report carries.

* `HoldsWeather`: the payloads with status `WxPacket`.
* `decode_weather`: what `decode` has filled in where the status is `WxPacket`.
* `weatherReport_located`: the report of an object with a place and a radius can be stored.
-/

namespace AprsWx

open Double Prog

variable {F : Type} [CDouble F]

/-! ## The payload -/

/-- The discriminator of a payload. -/
def descriminatorOf (text : List Char) : Char := text.headD '\x00'

/-- The text after the time stamp of a payload, where its latitude starts. -/
def positionText (text : List Char) : List Char := text.tail.drop (timeLength (descriminatorOf text))

/-- A payload that is taken for a weather report: a position, and four more characters after
its symbol code, whatever they are. -/
def HoldsWeather (text : List Char) : Prop :=
  IsReport (descriminatorOf text) ∧ IsCoordinate .LatitudeDDMMsss (positionText text) ∧
    IsCoordinate .LongitudeDDMMsss ((positionText text).drop 9) ∧ 23 ≤ (positionText text).length

instance (text : List Char) : Decidable (HoldsWeather text) :=
  inferInstanceAs (Decidable (_ ∧ _ ∧ _ ∧ _))

/-- The character that is taken for the symbol code. -/
def symbolCode (text : List Char) : Char := ((positionText text).drop 18).headD '\x00'

/-! ## The report -/

/-- A weather value is stored at the place of a symbol. -/
theorem storeWeatherValue_isSome {wxReport : AprsWxReport F} {wxSym : WxSym} {valueFlag : Char}
    {number : Option F} {i : Fin weatherItemCount}
    (set : ((storeWeatherValue wxReport wxSym valueFlag number).mWeatherValue i).isSome) :
    (wxReport.mWeatherValue i).isSome ∨ ∃ w : WxSym, w.idx = i := by
  cases number with
  | none => exact .inl set
  | some number =>
    rcases eq_or_ne i wxSym.idx with here | other
    · exact .inr ⟨wxSym, here.symm⟩
    · simp only [storeWeatherValue, Function.update_of_ne other] at set
      exact .inl set

theorem weatherFields_isSome (text : List Char) (wxReport : AprsWxReport F)
    {i : Fin weatherItemCount} (set : ((weatherFields text wxReport).mWeatherValue i).isSome) :
    (wxReport.mWeatherValue i).isSome ∨ ∃ w : WxSym, w.idx = i := by
  induction text, wxReport using weatherFields.induct (F := F) with
  | case1 wxReport =>
    rw [weatherFields] at set
    exact .inl set
  | case2 wxReport flag text unknown =>
    rw [weatherFields, unknown] at set
    exact .inl set
  | case3 wxReport flag text item found width ih =>
    rw [weatherFields, found] at set
    rcases ih set with before | symbol
    · exact storeWeatherValue_isSome before
    · exact .inr symbol

/-- With a place and a radius, a report is located. -/
theorem weatherReport_located {mQthPosition : AprsPosition F} {mRadius : Option F}
    {wxReport : AprsWxReport F} {name : List Char} (text : List Char)
    (named : wxReport.mName = name) (mLat : wxReport.mLat.isSome) (mLon : wxReport.mLon.isSome)
    (unset : wxReport.mWeatherValue = fun _ => none)
    (qthLat : mQthPosition.mLat.isSome) (qthLon : mQthPosition.mLon.isSome)
    (radius : mRadius.isSome) :
    (weatherReport mQthPosition mRadius text wxReport).Located name := by
  obtain ⟨packet, lat, lon, -⟩ := weatherReport_frame mQthPosition mRadius text wxReport
  obtain ⟨position, -⟩ := weatherFields_frame (text.drop 7) (windValues text wxReport)
  have wind : (windValues text wxReport).toAprsPosition = wxReport.toAprsPosition := by
    simp [windValues]
  rw [wind] at position
  have distance : (weatherReport mQthPosition mRadius text wxReport).mDistance.isSome := by
    obtain ⟨lat2, hlat2⟩ := Option.isSome_iff_exists.mp mLat
    obtain ⟨lon2, hlon2⟩ := Option.isSome_iff_exists.mp mLon
    obtain ⟨lat1, hlat1⟩ := Option.isSome_iff_exists.mp qthLat
    obtain ⟨lon1, hlon1⟩ := Option.isSome_iff_exists.mp qthLon
    simp [weatherReport, position, AprsPosition.located, hlat2, hlon2, hlat1, hlon1]
  constructor
  · rw [packet]
    exact named
  · rw [lat]
    exact mLat
  · rw [lon]
    exact mLon
  · exact distance
  · obtain ⟨d, hd⟩ := Option.isSome_iff_exists.mp distance
    obtain ⟨r, rfl⟩ := Option.isSome_iff_exists.mp radius
    change (hannValue (some r) (weatherReport mQthPosition (some r) text wxReport).mDistance _).isSome
    rw [hd]
    rfl
  · intro i set
    have fields :
        ((weatherFields (text.drop 7) (windValues text wxReport)).mWeatherValue i).isSome := set
    rcases weatherFields_isSome _ _ fields with wind | symbol
    · rcases storeWeatherValue_isSome wind with first | symbol
      · rcases storeWeatherValue_isSome first with start | symbol
        · rw [unset] at start
          cases start
        · exact symbol
      · exact symbol
    · exact symbol

/-! ## The packet -/

section Parse

variable (now : Int) (mQthPosition : AprsPosition F) (mRadius : Option F) (name : List Char)
  {text : List Char}

/-- What `decode` fills in for a payload that holds weather. -/
def weatherOf (text : List Char) (mLat mLon : F) : AprsWxReport F :=
  weatherReport mQthPosition mRadius ((positionText text).drop 19)
    { mName := name
      mTimePoint := now
      mDateTime := text.tail.take (timeLength (descriminatorOf text))
      mLat := some mLat
      mSymTableId := ((positionText text).drop 8).headD '\x00'
      mLon := some mLon
      mSymCode := symbolCode text }

theorem weatherOf_packet (text : List Char) (mLat mLon : F) :
    (weatherOf now mQthPosition mRadius name text mLat mLon).toAprsPacket =
      { mPacketStatus := .WxPacket, mName := name, mTimePoint := now,
        mSymTableId := ((positionText text).drop 8).headD '\x00', mSymCode := symbolCode text } :=
  (weatherReport_frame _ _ _ _).1

theorem weatherOf_coordinates (text : List Char) (mLat mLon : F) :
    (weatherOf now mQthPosition mRadius name text mLat mLon).mLat = some mLat ∧
      (weatherOf now mQthPosition mRadius name text mLat mLon).mLon = some mLon := by
  unfold weatherOf
  generalize (positionText text).drop 19 = weather
  constructor
  · rw [(weatherReport_frame _ _ _ _).2.1]
  · rw [(weatherReport_frame _ _ _ _).2.2.1]

theorem weatherOf_located (text : List Char) (mLat mLon : F) (qthLat : mQthPosition.mLat.isSome)
    (qthLon : mQthPosition.mLon.isSome) (radius : mRadius.isSome) :
    (weatherOf now mQthPosition mRadius name text mLat mLon).Located name :=
  weatherReport_located _ rfl rfl rfl rfl qthLat qthLon radius

theorem parse_of_coordinates (report : IsReport (descriminatorOf text)) {mLat mLon : F}
    (latitude : coordinateAt .LatitudeDDMMsss (positionText text) = some mLat)
    (longitude : coordinateAt .LongitudeDDMMsss ((positionText text).drop 9) = some mLon)
    (long : 23 ≤ (positionText text).length) :
    parse now mQthPosition mRadius name text =
      some (.report (weatherOf now mQthPosition mRadius name text mLat mLon)) := by
  cases text with
  | nil => exact absurd report (by decide)
  | cons descriminator text =>
    change IsReport descriminator at report
    change coordinateAt _ (text.drop (timeLength descriminator)) = _ at latitude
    change coordinateAt _ ((text.drop (timeLength descriminator)).drop 9) = _ at longitude
    change 23 ≤ (text.drop (timeLength descriminator)).length at long
    rw [parse, if_pos report, parseReport, if_neg (by omega), latitude]
    dsimp only
    rw [if_neg (by omega), longitude]
    dsimp only
    rw [if_neg (by omega)]
    rfl

theorem parse_of_weather (holds : HoldsWeather text) :
    ∃ mLat mLon, parse now mQthPosition mRadius name text =
      some (.report (weatherOf now mQthPosition mRadius name text mLat mLon)) := by
  obtain ⟨report, latitude, longitude, long⟩ := holds
  obtain ⟨mLat, lat⟩ := Option.isSome_iff_exists.mp ((coordinateAt_isSome (F := F)).mpr latitude)
  obtain ⟨mLon, lon⟩ := Option.isSome_iff_exists.mp ((coordinateAt_isSome (F := F)).mpr longitude)
  exact ⟨mLat, mLon, parse_of_coordinates now mQthPosition mRadius name report lat lon long⟩

/-- What `parseReport` returns: without a latitude, or without a longitude, the report as it was
made, and with both a weather report. -/
theorem parseReport_cases {mQthPosition : AprsPosition F} {mRadius : Option F}
    {wxReport wx : AprsWxReport F} (read : parseReport mQthPosition mRadius text wxReport = some wx) :
    ((wx.mPacketStatus = .ErrorLatitude ∨ wx.mPacketStatus = .ErrorLongitude) ∧
        wx.mWeatherValue = wxReport.mWeatherValue) ∨
      (wx.mPacketStatus = .WxPacket ∧ IsCoordinate .LatitudeDDMMsss text ∧
        IsCoordinate .LongitudeDDMMsss (text.drop 9) ∧ 23 ≤ text.length) := by
  unfold parseReport at read
  split at read
  · cases read
  · split at read
    · cases read
      exact .inl ⟨.inl rfl, rfl⟩
    · next mLat lat =>
      dsimp only at read
      split at read
      · cases read
      · split at read
        · cases read
          exact .inl ⟨.inr rfl, rfl⟩
        · next mLon lon =>
          split at read
          · cases read
          · next long =>
            cases read
            refine .inr ⟨rfl, ?_, ?_, Nat.not_lt.mp long⟩
            · exact coordinateAt_isSome.mp (Option.isSome_iff_exists.mpr ⟨mLat, lat⟩)
            · exact coordinateAt_isSome.mp (Option.isSome_iff_exists.mpr ⟨mLon, lon⟩)

/-- What `parse` returns: nothing but a discriminator of reports gives a report. -/
theorem parse_cases {now : Int} {mQthPosition : AprsPosition F} {mRadius : Option F}
    {name : List Char} {d : Decoded F}
    (parsed : parse now mQthPosition mRadius name text = some d) :
    (∃ p, d = .packet p ∧ p.mPacketStatus ≠ .WxPacket) ∨
      ∃ wx, d = .report wx ∧
        (((wx.mPacketStatus = .ErrorLatitude ∨ wx.mPacketStatus = .ErrorLongitude) ∧
            ∀ i, wx.mWeatherValue i = none) ∨
          (wx.mPacketStatus = .WxPacket ∧ HoldsWeather text)) := by
  cases text with
  | nil =>
    cases parsed
    exact .inl ⟨_, rfl, by simp⟩
  | cons descriminator text =>
    rw [parse] at parsed
    split at parsed
    · next report =>
      obtain ⟨wx, read, rfl⟩ := Option.map_eq_some_iff.mp parsed
      refine .inr ⟨wx, rfl, ?_⟩
      rcases parseReport_cases read with ⟨error, unset⟩ | ⟨weather, coordinates⟩
      · exact .inl ⟨error, congrFun unset⟩
      · exact .inr ⟨weather, report, coordinates⟩
    · cases parsed
      exact .inl ⟨_, rfl, by simp⟩

/-- The status `WxPacket` comes from nothing else. -/
theorem holdsWeather_of_parse {now : Int} {mQthPosition : AprsPosition F} {mRadius : Option F}
    {name : List Char} {d : Decoded F}
    (parsed : parse now mQthPosition mRadius name text = some d) (status : d.status = .WxPacket) :
    HoldsWeather text := by
  rcases parse_cases parsed with ⟨p, rfl, other⟩ | ⟨wx, rfl, ⟨error, -⟩ | ⟨-, holds⟩⟩
  · exact absurd status other
  · change wx.mPacketStatus = .WxPacket at status
    rw [status] at error
    rcases error with error | error <;> cases error
  · exact holds

/-- A packet has the status `WxPacket` exactly when its payload holds weather, and then it is a
report with the symbol code of the payload. -/
theorem decode_weather {now : Int} {s t : AprsIs F} {packet : StdString} {d : Decoded F}
    (decoded : (decode now).run (s.received packet) = .ok d t) (status : d.status = .WxPacket) :
    HoldsWeather (payload packet.chars) ∧ ∃ mLat mLon, d = .report (weatherOf now s.mQthPosition
      s.mRadius (textBefore '>' packet.chars) (payload packet.chars) mLat mLon) := by
  have parsed := parse_of_decode decoded
  have holds := holdsWeather_of_parse parsed status
  obtain ⟨mLat, mLon, weather⟩ :=
    parse_of_weather now s.mQthPosition s.mRadius (textBefore '>' packet.chars) holds
  exact ⟨holds, mLat, mLon, Option.some.inj (parsed.symm.trans weather)⟩

/-- A report is a weather report, or one of a coordinate that fails and then without values. -/
theorem decode_status {now : Int} {s t : AprsIs F} {packet : StdString} {wx : AprsWxReport F}
    (decoded : (decode now).run (s.received packet) = .ok (.report wx) t) :
    wx.mPacketStatus = .WxPacket ∨
      ((wx.mPacketStatus = .ErrorLatitude ∨ wx.mPacketStatus = .ErrorLongitude) ∧
        ∀ i, wx.mWeatherValue i = none) := by
  rcases parse_cases (parse_of_decode decoded) with ⟨p, equal, -⟩ | ⟨wx', equal, outcome⟩
  · cases equal
  · cases equal
    rcases outcome with failed | ⟨weather, -⟩
    · exact .inr failed
    · exact .inl weather

/-- A report of another status has no weather values. -/
theorem decode_values {now : Int} {s t : AprsIs F} {packet : StdString} {wx : AprsWxReport F}
    (decoded : (decode now).run (s.received packet) = .ok (.report wx) t) :
    (∀ i, wx.mWeatherValue i = none) ∨ wx.mPacketStatus = .WxPacket := by
  rcases decode_status decoded with weather | ⟨-, unset⟩
  · exact .inr weather
  · exact .inl unset

end Parse

end AprsWx

import AprsWx.Daemon

/-!
# Symbols

Which packets are taken for weather reports, and which of them change the aggregator. The
symbol code has no part in it.

* `decode_weather_iff`: the packets of status `WxPacket`, and what comes of the others.
* `decode_vehicle`: a vehicle with a course and a speed is one of them.
* `decode_none_iff`: what `decode` makes of a packet without a payload.
-/

namespace AprsWx

open Double Prog

variable {F : Type} [CDouble F]

/-! ## Packets that are no weather reports -/

/-- A packet that holds no weather leaves the aggregator as it is. -/
theorem handlePacket_other (config : Config F) {s : Main F} {u : AprsIs F} {packet : StdString}
    (received : s.net.sock = u.received packet) (other : ¬ HoldsWeather (payload packet.chars)) :
    Ends (handlePacket config) s (fun _ t => t.weatherAggregator = s.weatherAggregator)
      (fun _ t => t.weatherAggregator = s.weatherAggregator) := by
  unfold handlePacket
  rw [ends_bind, ends_get]
  dsimp only
  split
  · rw [ends_bind, onSock, ends_zoom]
    refine (charAtIndex_ends 0 _).mono ?_ ?_
    · rintro c sock rfl
      split
      · rw [ends_bind]
        refine ends_ask (fun e now script _ _ => ?_) rfl
        rw [ends_bind, onSock, ends_zoom]
        have decoded := decode_ends now u packet
        rw [← received] at decoded
        refine decoded.mono ?_ (fun _ _ _ => rfl)
        rintro d sock ⟨-, weather⟩
        unfold handleDecoded
        split
        · next status => exact absurd (weather status).1 other
        · exact rfl
        · exact rfl
      · exact rfl
    · intro _ _ _
      exact rfl
  · rw [ends_bind]
    exact (handleServerLine_pushes config s).mono (fun _ _ pushes => pushes.weatherAggregator)
      (fun _ _ stopped => stopped.1.weatherAggregator)

/-! ## Classification -/

/-- `decode` yields `WxPacket` exactly for the payloads that hold a position and four more
characters, with the symbol code that is there, and a packet of any other kind leaves the
aggregator as it is. -/
theorem decode_weather_iff (packet : StdString) :
    (∀ (now : Int) (s : AprsIs F),
      ((∃ d t, (decode now).run (s.received packet) = .ok d t ∧ d.status = .WxPacket) ↔
        HoldsWeather (payload packet.chars)) ∧
      ∀ d t, (decode now).run (s.received packet) = .ok d t → d.status = .WxPacket →
        ∃ wx, d = .report wx ∧ wx.mName = textBefore '>' packet.chars ∧
          wx.mSymCode = symbolCode (payload packet.chars)) ∧
    (¬ HoldsWeather (payload packet.chars) → ∀ (config : Config F) (s : Main F) (u : AprsIs F),
      s.net.sock = u.received packet →
        (final ((handlePacket config).run s)).weatherAggregator = s.weatherAggregator) := by
  refine ⟨fun now s => ⟨?_, ?_⟩, ?_⟩
  · constructor
    · rintro ⟨d, t, decoded, status⟩
      exact (decode_weather decoded status).1
    · intro holds
      obtain ⟨mLat, mLon, parsed⟩ :=
        parse_of_weather now s.mQthPosition s.mRadius (textBefore '>' packet.chars) holds
      obtain ⟨t, decoded⟩ := decode_of_parse parsed
      refine ⟨_, t, decoded, ?_⟩
      show AprsPacket.mPacketStatus (AprsPosition.toAprsPacket (AprsWxReport.toAprsPosition _)) = _
      rw [weatherOf_packet]
  · intro d t decoded status
    obtain ⟨-, mLat, mLon, rfl⟩ := decode_weather decoded status
    refine ⟨_, rfl, ?_, ?_⟩
    · rw [weatherOf_packet]
    · rw [weatherOf_packet]
  · intro other config s u received
    exact Ends.final (I := fun t : Main F => t.weatherAggregator = s.weatherAggregator)
      (handlePacket_other config received other)

/-- The position of a vehicle with its course and its speed. -/
def vehicle : StdString := ⟨"CAR>A:!4500.00N/07500.00W>088/036\n".toList, by decide⟩

/-- An object whose station is nowhere. -/
def vehicleSock : AprsIs ExReal := (Main.start []).net.sock

theorem decode_vehicle : ∃ wx t,
    (decode 0).run (vehicleSock.received vehicle) = .ok (.report wx) t ∧
      wx.mPacketStatus = .WxPacket ∧ wx.mSymCode = '>' := by
  obtain ⟨mLat, mLon, parsed⟩ := parse_of_weather 0 vehicleSock.mQthPosition vehicleSock.mRadius
    (textBefore '>' vehicle.chars) (show HoldsWeather (payload vehicle.chars) by decide +kernel)
  obtain ⟨t, decoded⟩ := decode_of_parse parsed
  refine ⟨_, t, decoded, ?_, ?_⟩
  · rw [weatherOf_packet]
  · rw [weatherOf_packet]
    exact (by decide : symbolCode (payload vehicle.chars) = '>')

/-! ## Packets without a payload -/

/-- For a packet without a `':'`, `decode` returns a packet of status `None` only where there is
no text at all: the first character of the header is taken for a discriminator. -/
theorem decode_none_iff (now : Int) (s : AprsIs F) {packet : StdString} (absent : ':' ∉ packet.chars) :
    (∃ p t, (decode now).run (s.received packet) = .ok (.packet p) t ∧ p.mPacketStatus = .None) ↔
      packet.chars = [] := by
  have header : payload packet.chars = packet.chars := if_neg absent
  cases text : packet.chars with
  | nil =>
    have parsed : parse now s.mQthPosition s.mRadius (textBefore '>' packet.chars)
        (payload packet.chars) = some (.packet { mPacketStatus := .None, mTimePoint := now }) := by
      rw [header, text]
      rfl
    obtain ⟨t, returned⟩ := decode_of_parse parsed
    exact ⟨fun _ => rfl, fun _ => ⟨_, t, returned, rfl⟩⟩
  | cons descriminator rest =>
    refine ⟨?_, nofun⟩
    rintro ⟨p, t, decoded, status⟩
    -- a discriminator gives a report, any other character an error
    have parsed := parse_of_decode decoded
    rw [header, text, parse] at parsed
    split at parsed
    · obtain ⟨r, -, equal⟩ := Option.map_eq_some_iff.mp parsed
      cases equal
    · cases parsed
      cases status

/-- A line that ends in its header. -/
def headerLine : StdString := ⟨"A>B\n".toList, by decide⟩

theorem decode_none_iff_headerLine :
    (∃ p t, (decode 0).run (vehicleSock.received headerLine) = .ok (.packet p) t ∧
      p.mPacketStatus = .None) ↔ headerLine.chars = [] :=
  decode_none_iff 0 vehicleSock (by decide)

/-- `main` returns 1 for it. -/
theorem decode_headerLine : IsLine headerLine.chars ∧ ':' ∉ headerLine.chars ∧
    ∀ (now : Int) (s : AprsIs ExReal), ∃ t, (decode now).run (s.received headerLine) =
      .ok (.packet { mPacketStatus := .DecodingError, mTimePoint := now }) t := by
  refine ⟨⟨"A>B".toList, by decide, by decide, by decide, by decide⟩, by decide, fun now s => ?_⟩
  have parsed : parse now s.mQthPosition s.mRadius (textBefore '>' headerLine.chars)
      (payload headerLine.chars) =
        some (.packet { mPacketStatus := .DecodingError, mTimePoint := now }) := rfl
  exact decode_of_parse parsed

end AprsWx

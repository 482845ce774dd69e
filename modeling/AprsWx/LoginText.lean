import AprsWx.Conversation
import AprsWx.Lib.LineProtocol

/-!
# The filter in the login line

The daemon asks a server for the stations in a circle around its own place. By the grammar of the
filters, the circle in the login line is the circle of the configuration, to six digits.

* `readFilter_loginLine`: the filter of a login line.
* `main_filter`: so it is with every line that a run sends.
-/

namespace AprsWx

open Double LineProtocol Numeral Prog

variable {F : Type}

/-! ## The grammar of a filter -/

/-- A circle: its centre in degrees, and its radius in kilometres. -/
structure Range where
  lat : ℚ
  lon : ℚ
  radius : Int
  deriving DecidableEq

def readInteger (text : List Char) : Option Int :=
  match text with
  | '-' :: ds => if ds ≠ [] ∧ ds.all Char.isDigit then some (-(decimalValue ds : Int)) else none
  | ds => if ds ≠ [] ∧ ds.all Char.isDigit then some (decimalValue ds) else none

/-- A filter `r/lat/lon/dist`. -/
def readRange (text : List Char) : Option Range :=
  match text.splitOn '/' with
  | [['r'], lat, lon, radius] =>
    (readNumber lat).bind fun lat => (readNumber lon).bind fun lon =>
      (readInteger radius).map fun radius => ⟨lat, lon, radius⟩
  | _ => none

/-- The last word of a line is the filter. -/
def readFilter (line : List Char) : Option Range :=
  if "\r\n".toList <:+ line then
    (((line.take (line.length - 2)).splitOn ' ').getLast?).bind readRange
  else none

/-! ## What the daemon sends -/

theorem readInteger_toString (n : Int) : readInteger (toString n).toList = some n := by
  have digits : (Nat.toDigits 10 n.natAbs).all Char.isDigit :=
    List.all_eq_true.mpr fun c mem => Nat.isDigit_of_mem_toDigits (by decide) (by decide) mem
  have value : decimalValue (Nat.toDigits 10 n.natAbs) = n.natAbs := Nat.ofDigitChars_ten_toDigits
  rw [toList_toString]
  by_cases negative : n < 0
  · rw [decide_eq_true negative]
    refine (if_pos ⟨Nat.toDigits_ne_nil, digits⟩).trans ?_
    show some (-(decimalValue (Nat.toDigits 10 n.natAbs) : Int)) = some n
    rw [value]
    exact congrArg some (by omega)
  · rw [decide_eq_false negative]
    simp only [Bool.false_eq_true, if_false, List.nil_append]
    unfold readInteger
    split
    · next ds equal =>
      have first := List.all_eq_true.mp digits '-' (equal ▸ List.mem_cons_self)
      exact absurd first (by decide)
    · rw [if_pos ⟨Nat.toDigits_ne_nil, digits⟩, value]
      exact congrArg some (by omega)

section

variable (M : Meaning F) (qthLatitude qthLongitude : F) (filterRadius : Int)

theorem readRange_filterText :
    readRange (filterText (M.text 6) qthLatitude qthLongitude filterRadius) =
      ((M.literal qthLatitude).rounded 6).number.bind fun lat =>
        ((M.literal qthLongitude).rounded 6).number.bind fun lon =>
          some ⟨lat, lon, filterRadius⟩ := by
  have parts : (filterText (M.text 6) qthLatitude qthLongitude filterRadius).splitOn '/' =
      [['r'], M.text 6 qthLatitude, M.text 6 qthLongitude, (toString filterRadius).toList] := by
    have split : filterText (M.text 6) qthLatitude qthLongitude filterRadius =
        ['r'] ++ '/' :: (M.text 6 qthLatitude ++ '/' :: (M.text 6 qthLongitude ++
          '/' :: (toString filterRadius).toList)) := by
      unfold filterText
      simp
    rw [split, List.splitOn_append_cons_self_of_not_mem (by decide),
      List.splitOn_append_cons_self_of_not_mem (IsForeign.notMem (by decide) _ _),
      List.splitOn_append_cons_self_of_not_mem (IsForeign.notMem (by decide) _ _),
      List.splitOn_eq_singleton (IsForeign.notMem_toString (by decide) _)]
  unfold readRange
  rw [parts]
  show (readNumber _).bind _ = _
  rw [readNumber_streamText, readNumber_streamText, readInteger_toString]
  rfl

theorem filterText_foreign {c : Char} (foreign : IsForeign c) (other : c ∉ ['r', '/']) :
    c ∉ filterText (M.text 6) qthLatitude qthLongitude filterRadius := by
  have number := foreign.notMem 6
  have slash : c ∉ ['/'] := fun mem => other (List.mem_cons_of_mem _ mem)
  unfold filterText
  refine List.not_mem_append (List.not_mem_append (List.not_mem_append (List.not_mem_append
    (List.not_mem_append other (number _)) slash) (number _)) slash) ?_
  exact foreign.notMem_toString filterRadius

/-- The filter is the last word of a login line, whatever the callsign and the pass code are. -/
theorem readFilter_loginLine (callsign passCode : List Char) :
    readFilter (loginLine callsign passCode
        (filterText (M.text 6) qthLatitude qthLongitude filterRadius)) =
      readRange (filterText (M.text 6) qthLatitude qthLongitude filterRadius) := by
  have blank : ' ' ∉ filterText (M.text 6) qthLatitude qthLongitude filterRadius :=
    filterText_foreign M _ _ _ (by decide) (by decide)
  generalize filterText (M.text 6) qthLatitude qthLongitude filterRadius = filter at blank
  have split : loginLine callsign passCode filter =
      ("user ".toList ++ callsign ++ " pass ".toList ++ passCode ++ " filter".toList ++
        ' ' :: filter) ++ "\r\n".toList := by
    unfold loginLine
    simp
  generalize "user ".toList ++ callsign ++ " pass ".toList ++ passCode ++ " filter".toList = first at split
  have length : (loginLine callsign passCode filter).length - 2 = (first ++ ' ' :: filter).length := by
    rw [split, List.length_append]
    rfl
  unfold readFilter
  rw [if_pos (split ▸ List.suffix_append _ _), length, split, List.take_left,
    List.splitOn_append_cons_self, List.splitOn_eq_singleton blank, List.getLast?_append]
  rfl

end

/-- A line asks for the circle of the configuration: it is read exactly where the place of the
station is finite, and then it is that circle, but for the digits that are cut off. -/
def Config.Asks (M : Meaning F) (config : Config F) (line : List Char) : Prop :=
  ∃ qthLatitude qthLongitude filterRadius, config.qthLatitude = some qthLatitude ∧
    config.qthLongitude = some qthLongitude ∧ config.filterRadius = some filterRadius ∧
    ((readFilter line).isSome ↔
      (M.literal qthLatitude).number.isSome ∧ (M.literal qthLongitude).number.isSome) ∧
    ∀ range ∈ readFilter line, M.Near 6 qthLatitude range.lat ∧ M.Near 6 qthLongitude range.lon ∧
      range.radius = filterRadius

theorem Config.asks_loginText {M : Meaning F} {config : Config F} {login : List Char}
    (configured : config.loginText (M.text 6) = some login) : config.Asks M login := by
  unfold Config.loginText at configured
  split at configured
  · next callsign passCode qthLatitude qthLongitude filterRadius call pass lat lon radius =>
    obtain rfl := Option.some.inj configured
    refine ⟨qthLatitude, qthLongitude, filterRadius, lat, lon, radius, ?_⟩
    rw [readFilter_loginLine, readRange_filterText, ← Literal.isSome_rounded 6 (M.literal qthLatitude),
      ← Literal.isSome_rounded 6 (M.literal qthLongitude)]
    cases latitude : ((M.literal qthLatitude).rounded 6).number with
    | none => exact ⟨⟨nofun, fun both => absurd both.1 Bool.false_ne_true⟩, nofun⟩
    | some lat =>
      cases longitude : ((M.literal qthLongitude).rounded 6).number with
      | none => exact ⟨⟨nofun, fun both => absurd both.2 Bool.false_ne_true⟩, nofun⟩
      | some lon =>
        refine ⟨⟨fun _ => ⟨rfl, rfl⟩, fun _ => rfl⟩, ?_⟩
        rintro range ⟨⟩
        exact ⟨M.near_rounded latitude, M.near_rounded longitude, rfl⟩
  · cases configured

/-- Every line that was sent asks for the circle of the configuration. -/
def Main.Asks (M : Meaning F) (config : Config F) (s : Main F) : Prop :=
  ∀ fd line, .write fd line ∈ s.net.log → config.Asks M line

/-- In every run, over any number of connections, each line that the daemon sends to a server asks
for the circle around the configured place. -/
theorem main_filter [CDouble F] (M : Meaning F) (config : Config F) (script : List Ext) :
    (Main.after (M.text 6) config script).Asks M config := by
  intro fd line mem
  obtain ⟨pre, post, split⟩ := List.append_of_mem mem
  rcases main_converses (M.text 6) config script with silent | ⟨login, configured, p, read⟩
  · exact absurd (split.symm.trans silent) (by simp)
  · rw [split] at read
    obtain ⟨rfl, -⟩ := conversation_write read
    exact Config.asks_loginText configured

end AprsWx

import AprsWx.Bodies
import AprsWx.Lib.LineProtocol

/-!
# The text of a body

What `pushToInflux` sends: the lines of `printInfluxFormat` as a stream writes them, and what they
say in the grammar of the line protocol.

* `postData_eq_nil`: the text is empty where there are no lines.
* `readBody_postData`: the points of the text are those of the lines, if all numbers are finite.
* `main_postData`: so it is with every body that a run pushes.
-/

namespace AprsWx

open Double LineProtocol Numeral Prog Trace

variable {F : Type}

/-! ## The text -/

/-- A line: `strm << prefix << item.dbName << '=' << value << '\n'`. -/
def InfluxLine.text (M : Meaning F) (l : InfluxLine F) : List Char :=
  l.series.toList ++ l.name.toList ++ '=' :: M.text 6 l.number ++ ['\n']

/-- `postField.str()`, after the lines of `printInfluxFormat`. -/
def postData (M : Meaning F) (body : List (InfluxLine F)) : List Char :=
  body.flatMap (InfluxLine.text M)

theorem postData_eq_nil {M : Meaning F} {body : List (InfluxLine F)} :
    postData M body = [] ↔ body = [] := by
  unfold postData
  rw [List.flatMap_eq_nil_iff]
  constructor
  · intro empty
    refine List.eq_nil_iff_forall_not_mem.mpr fun l mem => ?_
    exact List.append_ne_nil_of_right_ne_nil _ (List.cons_ne_nil _ _) (empty l mem)
  · rintro rfl
    exact List.forall_mem_nil _

/-! ## Its points -/

/-- The series of every line. -/
def aggregateSeries : Series := ⟨"aggregate".toList, [("call".toList, "VE3YSH".toList)]⟩

/-- A point says what a line was printed for: the measurement that the line names, with the
first six digits of its number. -/
structure InfluxLine.Sends (M : Meaning F) (l : InfluxLine F) (p : Point) : Prop where
  series : p.series = aggregateSeries
  field : p.field = l.name.toList
  number : M.Near 6 l.number p.number

/-- A line as the daemon prints it. -/
structure InfluxLine.Plain (l : InfluxLine F) : Prop where
  series : l.series = influxSeries
  name : Unseparated l.name.toList

/-- The text up to the blank in the prefix of a line. -/
def seriesText : List Char := "aggregate,call=VE3YSH".toList

/-- The text of a line without its line feed. -/
def InfluxLine.words (M : Meaning F) (l : InfluxLine F) : List Char :=
  line seriesText l.name.toList (M.text 6 l.number)

theorem InfluxLine.Plain.text_eq {l : InfluxLine F} (plain : l.Plain) (M : Meaning F) :
    l.text M = l.words M ++ ['\n'] := by
  have split : influxSeries.toList = seriesText ++ [' '] := rfl
  unfold InfluxLine.text InfluxLine.words line
  rw [plain.series, split]
  simp only [List.append_assoc, List.cons_append, List.nil_append]

/-- What is read of a line. -/
theorem InfluxLine.Plain.readPoint {l : InfluxLine F} (plain : l.Plain) (M : Meaning F) :
    readPoint (l.words M) =
      ((M.literal l.number).rounded 6).number.map fun number =>
        ⟨aggregateSeries, l.name.toList, number⟩ := by
  have series : readSeries seriesText = some aggregateSeries := by decide
  rw [InfluxLine.words, readPoint_line (by decide) plain.name (unseparated_streamText 6 _), series,
    readNumber_streamText]
  rfl

theorem InfluxLine.Plain.single {l : InfluxLine F} (plain : l.Plain) (M : Meaning F) :
    '\n' ∉ l.words M := by
  have number := (unseparated_streamText 6 (M.literal l.number)).feed
  refine List.not_mem_append (by decide) (List.not_mem_cons_of_ne_of_not_mem (by decide) ?_)
  exact List.not_mem_append plain.name.feed (List.not_mem_cons_of_ne_of_not_mem (by decide) number)

/-- A line is a point exactly where its number is finite. -/
theorem InfluxLine.Plain.isSome {l : InfluxLine F} (plain : l.Plain) (M : Meaning F) :
    (LineProtocol.readPoint (l.words M)).isSome ↔ (M.literal l.number).number.isSome := by
  rw [plain.readPoint, Option.isSome_map, Literal.isSome_rounded]

theorem InfluxLine.Plain.sends {l : InfluxLine F} (plain : l.Plain) (M : Meaning F) {p : Point}
    (read : LineProtocol.readPoint (l.words M) = some p) : l.Sends M p := by
  rw [plain.readPoint] at read
  obtain ⟨number, rounded, rfl⟩ := Option.map_eq_some_iff.mp read
  exact ⟨rfl, rfl, M.near_rounded rounded⟩

/-- The points are read in a text exactly where all its numbers are finite, and then they are
those of the lines. -/
theorem readBody_postData (M : Meaning F) {body : List (InfluxLine F)} (plain : ∀ l ∈ body, l.Plain) :
    ((readBody (postData M body)).isSome ↔ ∀ l ∈ body, (M.literal l.number).number.isSome) ∧
      ∀ points ∈ readBody (postData M body), List.Forall₂ (InfluxLine.Sends M) body points := by
  have lines : postData M body = unlines (body.map (InfluxLine.words M)) := by
    unfold postData unlines
    rw [List.flatMap_map]
    exact List.flatMap_congr fun l mem => (plain l mem).text_eq M
  have single : ∀ text ∈ body.map (InfluxLine.words M), '\n' ∉ text := by
    intro text mapped
    obtain ⟨l, mem, rfl⟩ := List.mem_map.mp mapped
    exact (plain l mem).single M
  rw [lines, readBody_lines single, List.mapM_map]
  obtain ⟨whole, each⟩ := mapM_spec (readPoint ∘ InfluxLine.words M) body
  refine ⟨whole.trans (forall₂_congr fun l mem => (plain l mem).isSome M), ?_⟩
  intro points read
  have lines := (List.forall₂_and_left body points).mpr ⟨plain, each points read⟩
  exact lines.imp fun l p both => both.1.sends M both.2

/-! ## Runs -/

section Runs

variable [CDouble F] {s t : WeatherAggregator F} {series : String}

theorem printItem_series {out : Gathered F} (same : ∀ l ∈ out.lines, l.series = series)
    (item : WeatherItem) :
    Ends (printItem s series out item) t (fun out' _ => ∀ l ∈ out'.lines, l.series = series)
      (fun _ _ => True) := by
  unfold printItem
  split
  · dsimp only
    split
    · exact same
    · rw [ends_bind]
      refine ends_value (fun weight _ => ?_) trivial
      have gathered : ∀ number, (out.gather item.wxSym number).lines = out.lines := by
        intro number
        unfold Gathered.gather
        split_ifs <;> rfl
      refine List.forall_mem_append.mpr ⟨?_, List.forall_mem_singleton.mpr rfl⟩
      rw [gathered]
      exact same
  · exact same

theorem printItems_series {out : Gathered F} (same : ∀ l ∈ out.lines, l.series = series)
    (items : List WeatherItem) :
    Ends (printItems s series out items) t (fun out' _ => ∀ l ∈ out'.lines, l.series = series)
      (fun _ _ => True) := by
  induction items generalizing out t with
  | nil => exact same
  | cons item items ih =>
    unfold printItems
    exact (printItem_series same item).bind fun next u same => ih same

/-- Every line starts with the prefix. -/
theorem printInfluxFormat_series (series : String) :
    Ends (printInfluxFormat series) s (fun body _ => ∀ l ∈ body, l.series = series)
      (fun _ _ => True) := by
  unfold printInfluxFormat
  rw [ends_bind, ends_get]
  refine (printItems_series (List.forall_mem_nil _) weatherItemList).bind fun out u same => ?_
  show ∀ l ∈ (printWindChill series (printHumidity series out)).lines, l.series = series
  have print : ∀ {out : Gathered F} (name : String) (number : F),
      (∀ l ∈ out.lines, l.series = series) → ∀ l ∈ (out.print series name number).lines,
        l.series = series := fun name number same =>
    List.forall_mem_append.mpr ⟨same, List.forall_mem_singleton.mpr rfl⟩
  have humidity : ∀ l ∈ (printHumidity series out).lines, l.series = series := by
    unfold printHumidity
    split
    · exact print _ _ (print _ _ same)
    · exact same
  unfold printWindChill
  split
  · exact print _ _ humidity
  · exact humidity

omit [CDouble F] in
theorem WeatherAggregator.computedNames_sublist (s : WeatherAggregator F) :
    s.computedNames.Sublist ["DewPt", "Humidex", "WindChill"] := by
  unfold WeatherAggregator.computedNames
  split_ifs <;> decide

/-- No name of a measurement has a separator in it. -/
theorem printInfluxFormat_plain {body : List (InfluxLine F)}
    (printed : (printInfluxFormat influxSeries).run s = .ok body t) : ∀ l ∈ body, l.Plain := by
  have series := (printInfluxFormat_series influxSeries).of_ok printed
  have named := (printInfluxFormat_names influxSeries).of_ok printed
  have rows : ∀ item ∈ weatherItemList, Unseparated item.dbName.toList := by decide
  have computed : ∀ name ∈ ["DewPt", "Humidex", "WindChill"], Unseparated name.toList := by decide
  intro l mem
  refine ⟨series l mem, ?_⟩
  have listed : l.name ∈ names body := List.mem_map_of_mem mem
  rw [named] at listed
  rcases List.mem_append.mp listed with row | last
  · obtain ⟨item, printed, equal⟩ := List.mem_map.mp row
    rw [← equal]
    exact rows item (List.mem_of_mem_filter printed)
  · exact computed _ (s.computedNames_sublist.subset last)

/-- What the text of a body says: if all its numbers are finite, it is in the grammar, with a point
for each line and no two of one field; and if one of them is not, then it is not. -/
structure IsRead (M : Meaning F) (body : List (InfluxLine F)) : Prop where
  whole : (readBody (postData M body)).isSome ↔ ∀ l ∈ body, (M.literal l.number).number.isSome
  sends : ∀ points ∈ readBody (postData M body),
    List.Forall₂ (InfluxLine.Sends M) body points ∧ (points.map Point.field).Nodup

/-- A body of the aggregator in a story. -/
theorem Story.isRead {config : Config F} {whole : Bool} {h : List (Obs F)}
    (story : Story config whole h s) (heard : ∀ wx, .received wx ∈ h → IsHeard config wx)
    {body : List (InfluxLine F)}
    (printed : (printInfluxFormat influxSeries).run s = .ok body t) (M : Meaning F) :
    IsRead M body := by
  have dewPoint := story.has_eq_false fun wx mem => (heard wx mem).unset (w := .DewPoint) rfl
  have humidex := story.has_eq_false fun wx mem => (heard wx mem).unset (w := .Humidex) rfl
  have once := (printInfluxFormat_namesOnce dewPoint humidex printed).1
  obtain ⟨whole, sends⟩ := readBody_postData M (printInfluxFormat_plain printed)
  refine ⟨whole, fun points read => ⟨sends points read, ?_⟩⟩
  have same : List.Forall₂ (· = ·) ((names body).map String.toList) (points.map Point.field) := by
    unfold names
    rw [List.map_map, List.forall₂_map_left_iff, List.forall₂_map_right_iff]
    exact (sends points read).imp fun l p sends => sends.field.symm
  rw [List.forall₂_eq_eq_eq] at same
  rw [← same]
  exact once.map fun _ _ => String.toList_injective

/-- In every run, the text of each body that is pushed stands for the measurements that were printed
of the aggregator, under their names and to six digits: but if one of them is not finite, the text is
not in the grammar. -/
theorem main_postData (M : Meaning F) (format : F → List Char) (config : Config F)
    (script : List Ext) :
    Throughout (fun pre o => ∀ cause time url body, o = .pushed cause time url body →
      ∃ a, settled pre = some a ∧ (printInfluxFormat influxSeries).run a = .ok body a ∧
        IsRead M body)
      (Main.after format config script).history := by
  obtain ⟨whole, tells⟩ := main_tells format config script
  have hears := main_hears format config script
  intro pre o post split cause time url body pushed
  subst pushed
  obtain ⟨a, story, printed, -⟩ := tells.story.made pre _ post split
  refine ⟨a, story.settled, printed, story.isRead ?_ printed M⟩
  intro wx mem
  refine hears wx ?_
  rw [split]
  exact List.mem_append_left _ mem

end Runs

end AprsWx

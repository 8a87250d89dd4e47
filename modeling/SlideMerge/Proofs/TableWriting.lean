import SlideMerge.Proofs.TableChecks

/-!
# Tables written as plain data

A table is written as an object with its fields, where a field may be left out if its value goes
without saying: the separator of a join, the form of month and year, the description, and what is
empty (`Spec.WrittenAs`, `Slide.WrittenAs`, `Table.WrittenAs`). However it is written, the check of
the data gives the same table again.

**Order.** Tokens stand in an object in the order in which they are written. They are different from
each other, so none takes the place of another when they are put under their specifications
(`Keyed.ofPairs_of_nodup`).

**Kinds.** What becomes of data is settled by its tag, so no specification is taken for one of
another kind (`Spec.tagged_iff_of_check`).

Main result: `Table.check_written`.
-/

namespace SlideMerge.Placeholder

open Plain Checked

/-- The data that writes a text. -/
def TextFor (s : String) (d : Data) : Prop :=
  d = .text s

def FormFor (form : MonthYearFormat) (d : Data) : Prop :=
  d = .text form.name

namespace Spec

/-- The data that writes a specification. -/
inductive WrittenAs : Spec → Data → Prop
  | cell (ref : String) :
      WrittenAs (.cell ref) (.object [("type", .text "cell"), ("ref", .text ref)])
  | const (value : String) :
    WrittenAs (.const value) (.object [("type", .text "const"), ("value", .text value)])
  | join (refs : List String) {separator : String} {field : Keyed Data}
    (joinWith : FieldFor "join_with" TextFor " " separator field) :
    WrittenAs (.join refs separator)
      (.object ([("type", .text "join"), ("refs", .list (refs.map .text))] ++ field))
  | monthYear (ref : String) {form : MonthYearFormat} {field : Keyed Data}
    (format : FieldFor "format" FormFor .short form field) :
    WrittenAs (.monthYear ref form)
      (.object ([("type", .text "month_year"), ("ref", .text ref)] ++ field))

theorem writtenAs_toData (spec : Spec) : spec.WrittenAs spec.toData := by
  cases spec with
  | cell ref => exact .cell ref
  | const value => exact .const value
  | join refs separator => exact .join refs (.given rfl)
  | monthYear ref form => exact .monthYear ref (.given rfl)

/-- **A specification is read as it is written.** -/
theorem check_of_writtenAs {spec : Spec} {d : Data} (h : spec.WrittenAs d) :
    check d = .ok spec := by
  cases h with
  | cell ref => rfl
  | const value => rfl
  | join refs joinWith =>
    have texts : checkList checkText (.list (refs.map .text)) = .ok refs :=
      checkList_eq_ok.2 ⟨_, rfl, List.forall₂_map_left_iff.2 (List.forall₂_same.2 fun ref _ => rfl)⟩
    refine check_eq_ok.2 ⟨_, .join, rfl, ⟨_, rfl, rfl⟩, Checked.map_eq_ok.2 ⟨(refs, _), ?_, rfl⟩⟩
    refine both_ok_iff.2 ⟨required_eq_ok.2 ⟨_, rfl, texts⟩, joinWith.optional_eq_ok ?_ rfl⟩
    rintro d rfl
    rfl
  | @monthYear ref form field format =>
    refine check_eq_ok.2 ⟨_, .monthYear, rfl, ⟨_, rfl, rfl⟩,
      Checked.map_eq_ok.2 ⟨(ref, _), ?_, rfl⟩⟩
    refine both_ok_iff.2 ⟨required_eq_ok.2 ⟨_, rfl, rfl⟩, format.optional_eq_ok ?_ rfl⟩
    rintro d rfl
    rw [checkMonthYearFormat, MonthYearFormat.ofName?_name]

end Spec

end SlideMerge.Placeholder

namespace SlideMerge.Mapping

open Plain Checked Placeholder

/-- The data that writes placeholders: their tokens in order, with data for the specifications. -/
def PlaceholdersFor (placeholders : Keyed Spec) (d : Data) : Prop :=
  ∃ entries, d = .object entries ∧ Keyed.Related Spec.WrittenAs placeholders entries

def Slide.WrittenAs (slide : Slide) (d : Data) : Prop :=
  ∃ field, d = .object ([("page", .integer slide.page)] ++ field) ∧
    FieldFor "placeholders" PlaceholdersFor [] slide.placeholders field

def SlidesFor (slides : { slides : List Slide // (slides.map Slide.page).Nodup }) (d : Data) :
    Prop :=
  ∃ items, d = .list items ∧ List.Forall₂ Slide.WrittenAs slides.1 items

def Table.WrittenAs (t : Table) (d : Data) : Prop :=
  ∃ description slides,
    d = .object ([("id", .text t.id), ("label", .text t.label)] ++ (description ++ slides)) ∧
    FieldFor "description" TextFor "" t.description description ∧
    FieldFor "slides" SlidesFor ⟨[], List.nodup_nil⟩ ⟨t.slides, t.pages_nodup⟩ slides

/-! ## Slides -/

theorem checkPlaceholders_written {placeholders : Keyed Spec} {d : Data}
    (h : PlaceholdersFor placeholders d) (nonempty : "" ∉ placeholders.keys)
    (distinct : placeholders.keys.Nodup) : checkPlaceholders d = .ok placeholders := by
  obtain ⟨entries, rfl, written⟩ := h
  have specs : checkSpecs entries = .ok placeholders := by
    refine checkSpecs_eq_ok.2 (written.flip.imp ?_)
    rintro e s ⟨token, spec⟩
    exact ⟨token.symm, Spec.check_of_writtenAs spec⟩
  refine checkPlaceholders_eq_ok.2 ⟨entries, _, rfl, specs, ?_, Keyed.ofPairs_of_nodup distinct⟩
  rwa [← tokens_of_checkSpecs specs]

/-- **A slide is read as it is written.** -/
theorem checkSlide_written {slide : Slide} {d : Data} (h : slide.WrittenAs d) :
    checkSlide d = .ok slide := by
  obtain ⟨field, rfl, placeholders⟩ := h
  have page : checkPage (.integer slide.page) = .ok slide.page :=
    checkPage_eq_ok.2 ⟨.integer slide.page, slide.page_pos⟩
  refine checkSlide_eq_ok.2 ⟨_, rfl, required_eq_ok.2 ⟨_, rfl, page⟩, ?_⟩
  refine placeholders.optional_eq_ok (fun d written => ?_) rfl
  exact checkPlaceholders_written written (fun empty => slide.tokens_ne "" empty rfl)
    slide.tokens_nodup

theorem Slide.writtenAs_slideData (slide : Slide) : slide.WrittenAs (Table.slideData slide) := by
  refine ⟨_, rfl, .given ⟨_, rfl, ?_⟩⟩
  exact List.forall₂_map_right_iff.2 (List.forall₂_same.2 fun e _ => ⟨rfl, e.2.writtenAs_toData⟩)

/-! ## Tables -/

namespace Table

theorem writtenAs_toData (t : Table) : t.WrittenAs t.toData := by
  refine ⟨_, _, rfl, .given rfl, .given ⟨_, rfl, ?_⟩⟩
  exact List.forall₂_map_right_iff.2 (List.forall₂_same.2 fun slide _ => slide.writtenAs_slideData)

/-- **A table is read as it is written.** -/
theorem check_of_writtenAs {t : Table} {d : Data} (h : t.WrittenAs d) : check d = .ok t := by
  obtain ⟨description, slides, rfl, hd, hs⟩ := h
  -- No field stands in the place of another one.
  have last : slides.find? "description" = none := hs.find?_of_ne (by decide)
  have first : description.find? "slides" = none := hd.find?_of_ne (by decide)
  refine check_eq_ok.2 ⟨_, rfl, checkFields_eq_ok.2 ⟨required_eq_ok.2 ⟨_, rfl, rfl⟩,
    required_eq_ok.2 ⟨_, rfl, rfl⟩, hd.optional_eq_ok ?_ ?_, hs.optional_eq_ok ?_ ?_⟩⟩
  · rintro d rfl
    rfl
  · rw [Keyed.find?_append, Keyed.find?_append, last, Option.or_none]
    rfl
  · rintro d ⟨items, rfl, written⟩
    refine checkSlides_eq_ok.2 (checkList_eq_ok.2 ⟨items, rfl, written.flip.imp ?_⟩)
    exact fun item slide => checkSlide_written
  · rw [Keyed.find?_append, Keyed.find?_append, first]
    rfl

/-! ### Kinds -/

/-- A specification of the kind for which its data is tagged. -/
def KeepsKind (d : Data) (spec : Spec) : Prop :=
  ∀ kind, Spec.Tagged d kind ↔ spec.kind = kind

/-- The placeholders of a slide, in the order of their data and of the kinds that it is tagged
for. -/
def KeepsKinds (d : Data) (slide : Slide) : Prop :=
  ∃ fields : Keyed Data, d = .object fields ∧
    ∀ entries, fields.find? "placeholders" = some (.object entries) →
      Keyed.Related KeepsKind (Keyed.ofPairs entries) slide.placeholders

theorem keepsKinds_of_checkSlide {d : Data} {slide : Slide} (h : checkSlide d = .ok slide) :
    KeepsKinds d slide := by
  obtain ⟨fields, rfl, -, placeholders⟩ := checkSlide_eq_ok.1 h
  refine ⟨fields, rfl, fun entries found => ?_⟩
  rcases optional_eq_ok.1 placeholders with ⟨d, found', ok⟩ | ⟨absent, -⟩
  · obtain rfl := Option.some.inj (found.symm.trans found')
    obtain ⟨_, specs, ⟨⟩, specsOk, -, put⟩ := checkPlaceholders_eq_ok.1 ok
    rw [← put]
    refine Keyed.related_ofPairs ((checkSpecs_eq_ok.1 specsOk).imp ?_)
    exact fun e s ⟨token, ok⟩ => ⟨token, Spec.tagged_iff_of_check ok⟩
  · exact nomatch found.symm.trans absent

/-- **Tables survive being written as plain data.** A table is read again from all of its fields,
and also if a separator that is a space, a form that is `Mon YYYY`, a description that is empty, or
what has nothing in it is left out. What is read is the same table, with its slides and their tokens
in the same order. Whatever data is read, a specification is of the kind, and of that kind only,
that the data under its token is tagged for. -/
theorem check_written :
    (∀ t : Table, check t.toData = .ok t) ∧
    (∀ (t : Table) (d : Data), t.WrittenAs d → check d = .ok t) ∧
    (∀ (d : Data) (spec : Spec), Spec.check d = .ok spec → KeepsKind d spec) ∧
    ∀ (fields : Keyed Data) (t : Table) (items : List Data), check (.object fields) = .ok t →
      fields.find? "slides" = some (.list items) → List.Forall₂ KeepsKinds items t.slides := by
  refine ⟨fun t => check_of_writtenAs t.writtenAs_toData, fun t d => check_of_writtenAs, ?_, ?_⟩
  · exact fun d spec => Spec.tagged_iff_of_check
  · intro fields t items ok found
    exact (slides_of_check ok found).imp fun item slide => keepsKinds_of_checkSlide

/-- A table with a join and a month whose defaults go without saying. -/
def rosterTable : Table where
  id := "roster"
  label := "Roster"
  description := ""
  slides := [
    { page := 41, placeholders := [
        ("[2]", .join ["S2", "T2"] " "), ("[1]", .monthYear "N2" .short), ("[3]", .const "N/A")] },
    { page := 16, placeholders := [("[1]", .cell "S2")] }]

/-- The join without its separator. -/
def rosterJoin : Data :=
  .object [("type", .text "join"), ("refs", .list [.text "S2", .text "T2"])]

/-- The slides with nothing that goes without saying. -/
def rosterItems : List Data :=
  [.object [("page", .integer 41), ("placeholders", .object
      [("[2]", rosterJoin), ("[1]", .object [("type", .text "month_year"), ("ref", .text "N2")]),
        ("[3]", .object [("type", .text "const"), ("value", .text "N/A")])])],
    .object [("page", .integer 16), ("placeholders", .object
      [("[1]", .object [("type", .text "cell"), ("ref", .text "S2")])])]]

/-- The fields of the table with nothing that goes without saying. -/
def rosterFields : Keyed Data :=
  [("id", .text "roster"), ("label", .text "Roster"), ("slides", .list rosterItems)]

/-- The table is read from the short data and from all of its fields. -/
theorem check_written_rosterTable :
    rosterTable.WrittenAs (.object rosterFields) ∧ check (.object rosterFields) = .ok rosterTable ∧
    check rosterTable.toData = .ok rosterTable ∧
    (Spec.check rosterJoin = .ok (.join ["S2", "T2"] " ") ∧
      KeepsKind rosterJoin (.join ["S2", "T2"] " ")) ∧
    List.Forall₂ KeepsKinds rosterItems rosterTable.slides := by
  obtain ⟨full, short, kind, kinds⟩ := check_written
  have join : (Spec.join ["S2", "T2"] " ").WrittenAs rosterJoin := .join _ .leftOut
  have month : (Spec.monthYear "N2" .short).WrittenAs
      (.object [("type", .text "month_year"), ("ref", .text "N2")]) := .monthYear _ .leftOut
  have slides : List.Forall₂ Slide.WrittenAs rosterTable.slides rosterItems :=
    .cons ⟨_, rfl,
      .given ⟨_, rfl, .cons ⟨rfl, join⟩ (.cons ⟨rfl, month⟩ (.cons ⟨rfl, .const _⟩ .nil))⟩⟩
      (.cons ⟨_, rfl, .given ⟨_, rfl, .cons ⟨rfl, .cell _⟩ .nil⟩⟩ .nil)
  have written : rosterTable.WrittenAs (.object rosterFields) :=
    ⟨_, _, rfl, .leftOut, .given ⟨_, rfl, slides⟩⟩
  have read := short _ _ written
  have joinRead : Spec.check rosterJoin = .ok (.join ["S2", "T2"] " ") := by decide +kernel
  exact ⟨written, read, full _, ⟨joinRead, kind _ _ joinRead⟩, kinds _ _ _ read rfl⟩

end Table

end SlideMerge.Mapping

import SlideMerge.Proofs.Archive
import SlideMerge.Proofs.Encoding
import SlideMerge.Proofs.Numeral
import SlideMerge.Proofs.Substitution

/-!
# What filling does, step by step

Filling a deck takes each slide of a table in turn and then copies all entries. The lemmas here say
for each step when it succeeds and what comes of it, so that no later proof opens the steps again.

* **A slide** is filled from the last entry of its path (`fillSlide_eq_ok_some`), and is skipped if
  there is none (`fillSlide_eq_ok_none`).
* **The slides of a table** have an outcome each (`Outcome`); a filled deck is put together from the
  outcomes and the copies of the entries (`fillOpened_eq_ok`).
* **A copy** has the new data of its path, if there is any, and else its own (`copyEntry_eq_ok`).

Different pages have different paths (`slidePath_injective`), so no slide takes the data of another.
-/

namespace SlideMerge.Deck

open Text Numeric Archive Mapping Placeholder Workbook

variable {ε : Type}

/-! ## Paths of slides -/

theorem toList_slidePath (page : Nat) :
    (slidePath page).toList = "ppt/slides/slide".toList ++ (decimal page ++ ".xml".toList) := by
  have hp : slidePath page = "ppt/slides/slide" ++ String.ofList (decimal page) ++ ".xml" := by
    unfold slidePath
    rw [decimalInt_natCast]
    simp only [toString]
  rw [hp, String.toList_append, String.toList_append, List.append_assoc,
    String.toList_ofList (l := decimal page)]

/-- **Slides of different pages have different paths.** -/
theorem slidePath_injective {m n : Nat} (h : slidePath m = slidePath n) : m = n := by
  have hl := congrArg String.toList h
  rw [toList_slidePath, toList_slidePath, List.append_cancel_left_eq,
    List.append_cancel_right_eq] at hl
  exact decimal_injective hl

/-! ## One slide -/

theorem keys_of_textsFor {resolve : Spec → Except ε String} {placeholders : Keyed Spec}
    {texts : Keyed String} (h : textsFor resolve placeholders = .ok texts) :
    texts.keys = placeholders.keys := by
  have hf := mapM_eq_ok.1 h
  clear h
  induction hf with
  | nil => rfl
  | @cons entry text _ _ ht _ ih =>
    obtain ⟨value, -, rfl⟩ := map_eq_ok.1 ht
    exact congrArg (entry.1 :: ·) ih

theorem map_fst_replacements (texts : Keyed String) :
    (replacements texts).map Prod.fst = texts.keys.map String.toList := by
  simp [replacements, Keyed.keys]

/-- A token of a slide with its text, the reserved characters of the text being named. -/
def Replacement (resolve : Spec → Except ε String) (entry : String × Spec)
    (pair : List Char × List Char) : Prop :=
  ∃ value, resolve entry.2 = .ok value ∧ pair = (entry.1.toList, escapeMarkup value.toList)

theorem replacements_of_textsFor {resolve : Spec → Except ε String} {placeholders : Keyed Spec}
    {texts : Keyed String} (h : textsFor resolve placeholders = .ok texts) :
    List.Forall₂ (Replacement resolve) placeholders (replacements texts) := by
  have hf := mapM_eq_ok.1 h
  clear h
  induction hf with
  | nil => exact List.Forall₂.nil
  | @cons entry text _ _ ht _ ih =>
    obtain ⟨value, hv, rfl⟩ := map_eq_ok.1 ht
    exact List.Forall₂.cons ⟨value, hv, rfl⟩ ih

theorem toList_ne_nil {slide : Slide} {token : String} (h : token ∈ slide.placeholders.keys) :
    token.toList ≠ [] := fun hn =>
  slide.tokens_ne token h (String.toList_eq_nil_iff.1 hn)

theorem exists_token_of_mem {resolve : Spec → Except ε String} {slide : Slide}
    {texts : Keyed String} (h : textsFor resolve slide.placeholders = .ok texts)
    {pair : List Char × List Char} (hp : pair ∈ replacements texts) :
    ∃ token ∈ slide.placeholders.keys, pair.1 = token.toList := by
  have hkey : pair.1 ∈ (replacements texts).map Prod.fst := List.mem_map_of_mem hp
  rw [map_fst_replacements, keys_of_textsFor h] at hkey
  obtain ⟨token, htoken, hpair⟩ := List.mem_map.1 hkey
  exact ⟨token, htoken, hpair.symm⟩

theorem fillData_eq_ok {encoding : Encoding} {resolve : Spec → Except ε String} {slide : Slide}
    {data : Bytes} {s : FilledSlide} :
    fillData encoding resolve slide data = .ok s ↔
      ∃ text texts, encoding.decode data = .ok text ∧
        textsFor resolve slide.placeholders = .ok texts ∧
        encoding.encode (substitute (replacements texts) text).1 = .ok s.data ∧
        s.page = slide.page ∧ s.replacements = (substitute (replacements texts) text).2 := by
  simp only [fillData, slideText, bind_eq_ok, mapError_eq_ok]
  constructor
  · rintro ⟨text, ht, texts, hr, data, hd, h⟩
    obtain rfl := Except.ok.inj h
    exact ⟨text, texts, ht, hr, hd, rfl, rfl⟩
  · rintro ⟨text, texts, ht, hr, hd, hp, hn⟩
    exact ⟨text, ht, texts, hr, s.data, hd, by rw [← hp, ← hn]⟩

section Slide

variable {encoding : Encoding} {deck : Archive} {resolve : Spec → Except ε String} {slide : Slide}

theorem fillSlide_of_none (h : deck.find? (slidePath slide.page) = none) :
    fillSlide encoding deck resolve slide = .ok none := by
  rw [fillSlide, Archive.read?, h]
  rfl

theorem fillSlide_of_some {e : Entry} (h : deck.find? (slidePath slide.page) = some e) :
    fillSlide encoding deck resolve slide =
      (e.contents (quotedString (slidePath slide.page))).mapError
        (slideDataFault (slidePath slide.page)) >>= fun data =>
          some <$> fillData encoding resolve slide data := by
  rw [fillSlide, Archive.read?, h, Option.map_some]
  cases e.contents (quotedString (slidePath slide.page)) <;> rfl

theorem fillSlide_eq_ok_none :
    fillSlide encoding deck resolve slide = .ok none ↔
      deck.find? (slidePath slide.page) = none := by
  rw [fillSlide, Archive.read?]
  cases deck.find? (slidePath slide.page) with
  | none => exact iff_of_true rfl rfl
  | some e =>
    refine iff_of_false ?_ (Option.some_ne_none e)
    rw [Option.map_some]
    cases e.contents (quotedString (slidePath slide.page)) with
    | error fault => exact error_ne_ok
    | ok data =>
      intro h
      obtain ⟨s, -, hs⟩ := map_eq_ok.1 h
      exact Option.some_ne_none s hs

theorem fillSlide_eq_ok_some {s : FilledSlide} :
    fillSlide encoding deck resolve slide = .ok (some s) ↔
      ∃ e, deck.find? (slidePath slide.page) = some e ∧ e.Readable ∧
        fillData encoding resolve slide e.data = .ok s := by
  rw [fillSlide, Archive.read?]
  cases deck.find? (slidePath slide.page) with
  | none =>
    refine iff_of_false (fun h => Option.some_ne_none s (Except.ok.inj h).symm) ?_
    rintro ⟨e, he, -⟩
    exact Option.some_ne_none e he.symm
  | some e =>
    rw [Option.map_some]
    cases hc : e.contents (quotedString (slidePath slide.page)) with
    | error fault =>
      refine iff_of_false error_ne_ok ?_
      rintro ⟨e', he, hr, -⟩
      obtain rfl := Option.some.inj he
      rw [Entry.contents_eq_ok.2 ⟨hr, rfl⟩] at hc
      exact absurd hc.symm error_ne_ok
    | ok data =>
      obtain ⟨hr, rfl⟩ := Entry.contents_eq_ok.1 hc
      constructor
      · intro h
        obtain ⟨s', hs, h⟩ := map_eq_ok.1 h
        obtain rfl := Option.some.inj h
        exact ⟨e, rfl, hr, hs⟩
      · rintro ⟨e', he, -, hs⟩
        obtain rfl := Option.some.inj he
        exact map_eq_ok.2 ⟨s, hs, rfl⟩

end Slide

/-! ## The slides of a table -/

/-- What becomes of a slide, with its page. -/
def Outcome (encoding : Encoding) (deck : Archive) (resolve : Spec → Except ε String)
    (slide : Slide) (o : Nat × Option FilledSlide) : Prop :=
  o.1 = slide.page ∧ fillSlide encoding deck resolve slide = .ok o.2

def filledSlides (outcomes : List (Nat × Option FilledSlide)) : List FilledSlide :=
  outcomes.filterMap (·.2)

theorem filledSlides_cons_none (page : Nat) (rest : List (Nat × Option FilledSlide)) :
    filledSlides ((page, none) :: rest) = filledSlides rest := rfl

theorem filledSlides_cons_some (page : Nat) (s : FilledSlide)
    (rest : List (Nat × Option FilledSlide)) :
    filledSlides ((page, some s) :: rest) = s :: filledSlides rest := rfl

theorem mem_filledSlides {outcomes : List (Nat × Option FilledSlide)} {s : FilledSlide} :
    s ∈ filledSlides outcomes ↔ ∃ page, (page, some s) ∈ outcomes := by
  simp [filledSlides]

/-- A filled deck from what has become of the slides. -/
def Filled.assemble (archive : Archive) (outcomes : List (Nat × Option FilledSlide)) : Filled where
  archive := archive
  filled := (filledSlides outcomes).map (·.page)
  skipped := outcomes.filterMap fun o => if o.2.isNone then some o.1 else none
  replacements := total ((filledSlides outcomes).map (·.replacements))

section Outcomes

variable {encoding : Encoding} {deck : Archive} {resolve : Spec → Except ε String}
  {slides : List Slide} {outcomes : List (Nat × Option FilledSlide)}

theorem outcomes_eq_ok :
    (slides.mapM fun slide : Slide => (slide.page, ·) <$> fillSlide encoding deck resolve slide) =
        .ok outcomes ↔
      List.Forall₂ (Outcome encoding deck resolve) slides outcomes := by
  have step (slide : Slide) (o : Nat × Option FilledSlide) :
      (slide.page, ·) <$> fillSlide encoding deck resolve slide = .ok o ↔
        Outcome encoding deck resolve slide o := by
    rw [map_eq_ok, Outcome]
    constructor
    · rintro ⟨s, hs, rfl⟩
      exact ⟨rfl, hs⟩
    · rintro ⟨hp, hs⟩
      exact ⟨o.2, hs, by rw [← hp]⟩
  simp only [mapM_eq_ok, step]

theorem fillOpened_eq_ok {f : Filled} :
    fillOpened encoding deck slides resolve = .ok f ↔
      ∃ outcomes entries, List.Forall₂ (Outcome encoding deck resolve) slides outcomes ∧
        List.Forall₂ (fun e e' => copyEntry (filledSlides outcomes) e = .ok e') deck.entries
          entries ∧
        f = .assemble ⟨deck.comment, entries⟩ outcomes := by
  simp only [fillOpened, bind_eq_ok, mapError_eq_ok, outcomes_eq_ok]
  simp only [mapM_eq_ok]
  constructor
  · rintro ⟨outcomes, ho, entries, he, h⟩
    exact ⟨outcomes, entries, ho, he, (Except.ok.inj h).symm⟩
  · rintro ⟨outcomes, entries, ho, he, rfl⟩
    exact ⟨outcomes, ho, entries, he, rfl⟩

/-- A deck is not filled because a slide cannot be filled or because an entry cannot be copied. -/
theorem fillOpened_eq_error {fault : FillFault ε}
    (h : fillOpened encoding deck slides resolve = .error fault) :
    (∃ slide ∈ slides, fillSlide encoding deck resolve slide = .error fault) ∨
      ∃ outcomes, List.Forall₂ (Outcome encoding deck resolve) slides outcomes ∧
        ∃ e ∈ deck.entries, ∃ cause,
          copyEntry (filledSlides outcomes) e = .error cause ∧ fault = .entry cause := by
  rw [fillOpened, bind_eq_error] at h
  rcases h with h | ⟨outcomes, ho, h⟩
  · obtain ⟨slide, hs, h⟩ := exists_of_mapM_eq_error h
    exact Or.inl ⟨slide, hs, map_eq_error.1 h⟩
  · rcases bind_eq_error.1 h with h | ⟨entries, -, h⟩
    · obtain ⟨cause, hm, rfl⟩ := mapError_eq_error.1 h
      obtain ⟨e, he, hc⟩ := exists_of_mapM_eq_error hm
      exact Or.inr ⟨outcomes, outcomes_eq_ok.1 ho, e, he, cause, hc, rfl⟩
    · cases h

theorem Outcome.isSome_eq {slide : Slide} {o : Nat × Option FilledSlide}
    (h : Outcome encoding deck resolve slide o) :
    o.2.isSome = deck.contains (slidePath slide.page) := by
  rw [contains_eq_isSome_find?]
  obtain ⟨page, _ | s⟩ := o
  · rw [fillSlide_eq_ok_none.1 h.2]
    rfl
  · obtain ⟨e, he, -⟩ := fillSlide_eq_ok_some.1 h.2
    rw [he]
    rfl

theorem Outcome.page_eq {slide : Slide} {page : Nat} {s : FilledSlide}
    (h : Outcome encoding deck resolve slide (page, some s)) : s.page = slide.page := by
  obtain ⟨e, -, -, hs⟩ := fillSlide_eq_ok_some.1 h.2
  obtain ⟨text, texts, -, -, -, hp, -⟩ := fillData_eq_ok.1 hs
  exact hp

theorem map_page_filledSlides (h : List.Forall₂ (Outcome encoding deck resolve) slides outcomes) :
    (filledSlides outcomes).map (·.page) =
      (slides.map Slide.page).filter fun page : Nat => deck.contains (slidePath page) := by
  induction h with
  | nil => rfl
  | @cons slide o _ _ ho _ ih =>
    rw [List.map_cons, List.filter_cons, ← ho.isSome_eq]
    obtain ⟨page, _ | s⟩ := o
    · rw [filledSlides_cons_none]
      exact ih
    · rw [filledSlides_cons_some, List.map_cons, ho.page_eq, ih]
      rfl

theorem skipped_assemble (h : List.Forall₂ (Outcome encoding deck resolve) slides outcomes)
    (archive : Archive) :
    (Filled.assemble archive outcomes).skipped =
      (slides.map Slide.page).filter fun page : Nat => !deck.contains (slidePath page) := by
  induction h with
  | nil => rfl
  | @cons slide o _ _ ho _ ih =>
    rw [List.map_cons, List.filter_cons, ← ho.isSome_eq, Filled.assemble]
    obtain ⟨page, _ | s⟩ := o
    · obtain rfl : page = slide.page := ho.1
      exact congrArg (slide.page :: ·) ih
    · exact ih

end Outcomes

/-! ## New data -/

theorem newData?_eq_none {slides : List FilledSlide} {name : String} :
    newData? slides name = none ↔ ∀ s ∈ slides, slidePath s.page ≠ name := by
  simp [newData?]

theorem newData?_append (slides more : List FilledSlide) (name : String) :
    newData? (slides ++ more) name = (newData? slides name).or (newData? more name) := by
  rw [newData?, List.find?_append, Option.map_or]
  rfl

theorem newData?_of_mem {slides : List FilledSlide} (hn : (slides.map (·.page)).Nodup)
    {s : FilledSlide} (hs : s ∈ slides) : newData? slides (slidePath s.page) = some s.data := by
  induction slides with
  | nil => exact absurd hs List.not_mem_nil
  | cons t rest ih =>
    rw [List.map_cons, List.nodup_cons] at hn
    rw [newData?, List.find?_cons]
    rcases List.mem_cons.1 hs with rfl | hs
    · simp
    · have ht : slidePath t.page ≠ slidePath s.page := fun h =>
        hn.1 (slidePath_injective h ▸ List.mem_map_of_mem hs)
      rw [decide_eq_false ht]
      exact ih hn.2 hs

section Outcomes

variable {encoding : Encoding} {deck : Archive} {resolve : Spec → Except ε String}
  {slides : List Slide} {outcomes : List (Nat × Option FilledSlide)}

theorem newData?_slidePath (h : List.Forall₂ (Outcome encoding deck resolve) slides outcomes)
    (hn : (slides.map Slide.page).Nodup) {slide : Slide} (hs : slide ∈ slides)
    {s : Option FilledSlide} (hf : fillSlide encoding deck resolve slide = .ok s) :
    newData? (filledSlides outcomes) (slidePath slide.page) = s.map (·.data) := by
  have pages := map_page_filledSlides h
  cases s with
  | none =>
    rw [Option.map_none, newData?_eq_none]
    intro s hm hpath
    have hp : s.page ∈ (filledSlides outcomes).map (·.page) := List.mem_map_of_mem hm
    rw [pages, List.mem_filter, hpath, contains_eq_isSome_find?, fillSlide_eq_ok_none.1 hf] at hp
    exact Bool.false_ne_true hp.2
  | some s =>
    obtain ⟨⟨page, t⟩, hm, ho⟩ := exists_of_mem_left h slide hs
    obtain rfl : t = some s := Except.ok.inj (ho.2.symm.trans hf)
    rw [← ho.page_eq, Option.map_some]
    refine newData?_of_mem ?_ (mem_filledSlides.2 ⟨page, hm⟩)
    rw [pages]
    exact hn.filter _

theorem newData?_of_ne (h : List.Forall₂ (Outcome encoding deck resolve) slides outcomes)
    {name : String} (hname : ∀ slide ∈ slides, name ≠ slidePath slide.page) :
    newData? (filledSlides outcomes) name = none := by
  rw [newData?_eq_none]
  rintro s hm rfl
  have hp : s.page ∈ (filledSlides outcomes).map (·.page) := List.mem_map_of_mem hm
  rw [map_page_filledSlides h] at hp
  obtain ⟨slide, hs, hpage⟩ := List.mem_map.1 (List.mem_of_mem_filter hp)
  exact hname slide hs (by rw [hpage])

end Outcomes

/-- **A copy has the new data, if there is any, and else the data of the entry.** -/
theorem copyEntry_eq_ok {slides : List FilledSlide} {e e' : Entry} :
    copyEntry slides e = .ok e' ↔
      e.Storable ∧ (newData? slides e.name = none → e.Readable) ∧
        e' = e.withData ((newData? slides e.name).getD e.data) := by
  rw [copyEntry]
  cases newData? slides e.name with
  | some data => simp [Entry.write_eq_ok]
  | none =>
    simp only [bind_eq_ok, Entry.contents_eq_ok, Entry.write_eq_ok, Option.getD_none,
      forall_const]
    constructor
    · rintro ⟨data, ⟨hr, rfl⟩, hm, he⟩
      exact ⟨hm, hr, he⟩
    · rintro ⟨hm, hr, he⟩
      exact ⟨e.data, ⟨hr, rfl⟩, hm, he⟩

/-- A copy fails where its own data cannot be read, or where it cannot be written: its method is
unknown, or its name is too long. -/
theorem copyEntry_eq_error {slides : List FilledSlide} {e : Entry} {cause : EntryFault}
    (h : copyEntry slides e = .error cause) :
    newData? slides e.name = none ∧ e.contents e.listing = .error cause ∨
      e.method ∉ knownMethods ∧ cause = .unknownMethod ∨
      e.method ∈ knownMethods ∧ maxNameSize < (encodeUtf8 e.name.toList).length ∧
        cause = .nameTooLong := by
  rw [copyEntry] at h
  cases hn : newData? slides e.name with
  | some data =>
    rw [hn] at h
    exact Or.inr (Entry.write_eq_error.1 h)
  | none =>
    rw [hn] at h
    rcases bind_eq_error.1 h with hc | ⟨data, -, hc⟩
    · exact Or.inl ⟨rfl, hc⟩
    · exact Or.inr (Entry.write_eq_error.1 hc)

theorem data_of_copyEntry {encoding : Encoding} {deck : Archive} {resolve : Spec → Except ε String}
    {slides : List Slide} {outcomes : List (Nat × Option FilledSlide)}
    (ho : List.Forall₂ (Outcome encoding deck resolve) slides outcomes)
    (hn : (slides.map Slide.page).Nodup) {e e' : Entry} (he : e ∈ deck.entries)
    (h : copyEntry (filledSlides outcomes) e = .ok e') {slide : Slide} (hs : slide ∈ slides)
    (hname : e.name = slidePath slide.page) :
    ∃ s, fillSlide encoding deck resolve slide = .ok (some s) ∧ e'.data = s.data := by
  obtain ⟨⟨page, outcome⟩, -, hout⟩ := exists_of_mem_left ho slide hs
  have hdata := newData?_slidePath ho hn hs hout.2
  obtain ⟨-, -, rfl⟩ := copyEntry_eq_ok.1 h
  cases outcome with
  | none =>
    -- the deck has the slide, as `e` is an entry of it
    have hsome := hout.isSome_eq
    rw [contains_iff.2 ⟨e, he, hname⟩] at hsome
    exact absurd hsome Bool.false_ne_true
  | some s =>
    rw [hname, hdata]
    exact ⟨s, hout.2, rfl⟩

/-! ## Templates -/

theorem rewrite_eq_bind (encoding : Encoding) (template : Upload) (table : Table)
    (resolve : Spec → Except ε String) :
    rewrite encoding template table resolve =
      (openTemplate template).mapError openingFault >>= fun deck =>
        fillOpened encoding deck table.slides resolve := by
  rw [rewrite, openTemplate]
  cases template.toArchive with
  | error fault => rfl
  | ok a =>
    show fillWith encoding a table resolve = a.opened.mapError openingFault >>= _
    rfl

theorem rewrite_eq_ok {encoding : Encoding} {template : Upload} {table : Table}
    {resolve : Spec → Except ε String} {f : Filled} :
    rewrite encoding template table resolve = .ok f ↔
      ∃ deck, openTemplate template = .ok deck ∧
        fillOpened encoding deck table.slides resolve = .ok f := by
  simp only [rewrite, fillWith, openTemplate, bind_eq_ok, mapError_eq_ok]
  constructor
  · rintro ⟨a, ha, deck, ho, hf⟩
    exact ⟨deck, ⟨a, ha, ho⟩, hf⟩
  · rintro ⟨deck, ⟨a, ha, ho⟩, hf⟩
    exact ⟨a, ha, deck, ho, hf⟩

/-! ## A small template -/

/-- An entry with a text that is not compressed. -/
def entryOfText (name text : String) (attributes : Nat) (extra : Bytes) : Entry where
  name := name
  stamp := ⟨2024, 2, 30, 12, 30, 58⟩
  method := 0
  system := 3
  attributes := attributes
  comment := []
  extra := extra
  flags := 0
  declared := checksum (encodeUtf8 text.toList)
  data := encodeUtf8 text.toList

/-- A deck with a slide whose name comes twice, the second time without attributes and with a record
for a large entry, and with an empty slide. -/
def smallDeck : Archive where
  comment := [33]
  entries :=
    [entryOfText (slidePath 2) "<t>[B]</t>" 1 [], entryOfText "docProps/app.xml" "[A]" 0 [7],
      entryOfText (slidePath 2) "<t>[A] [B]</t>" 0 [1, 0, 1, 0, 9, 7, 0, 0, 0],
      entryOfText (slidePath 20) "" 2 []]

/-- The slides of the first pass: one with two tokens, and one that the deck does not have. -/
def firstTable : Table where
  id := "first"
  label := "First"
  description := ""
  slides :=
    [{ page := 15, placeholders := [("[A]", .const "unused")] },
      { page := 2, placeholders := [("[A]", .const "1 < 2"), ("[B]", .const "&")] }]

def constantText : Spec → Except Empty String
  | .const value => .ok value
  | _ => .ok ""

/-- The small deck with its slides filled: both entries of a name become what the last one does. -/
def smallFilled : Filled where
  archive :=
    ⟨[33], List.zipWith Entry.withData smallDeck.entries
      [encodeUtf8 "<t>1 &lt; 2 &amp;</t>".toList, encodeUtf8 "[A]".toList,
        encodeUtf8 "<t>1 &lt; 2 &amp;</t>".toList, []]⟩
  filled := [2]
  skipped := [15]
  replacements := 2

theorem openTemplate_smallDeck : openTemplate (.archive smallDeck) = .ok smallDeck := by
  decide +kernel

theorem rewrite_smallDeck :
    rewrite .utf8 (.archive smallDeck) firstTable constantText = .ok smallFilled := by
  decide +kernel

end SlideMerge.Deck

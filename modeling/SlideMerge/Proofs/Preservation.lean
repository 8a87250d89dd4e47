import SlideMerge.Proofs.Filling

/-!
# What filling preserves

Filling a deck changes the data of slides and nothing else that a reader of the deck would see. This
module says so entry by entry.

* **Properties** of an entry are copied (`EntryFilled`). Missing attributes become the default ones,
  and the records for large entries are dropped from the extra field.
* **Data** of an entry is copied too, unless its name is the path of a slide of the table. Then it
  is made from the *last* entry of that name (`SlideData`), whichever of them is copied.
* **Pages** of the table are filled or skipped, in the order of the table (`DeckFilled`).

Main result: `rewrite_preserves`.
-/

namespace SlideMerge.Deck

open Text Archive Mapping Placeholder Workbook

variable {ε : Type}

/-- The data of a filled slide: the text of the last entry of its path, with the tokens replaced in
the order in which they are declared. -/
def SlideData (encoding : Encoding) (deck : Archive) (resolve : Spec → Except ε String)
    (slide : Slide) (data : Bytes) : Prop :=
  ∃ last text pairs,
    (deck.entries.filter fun e => e.name = slidePath slide.page).getLast? = some last ∧
    encoding.decode last.data = .ok text ∧
    List.Forall₂ (Replacement resolve) slide.placeholders pairs ∧
    encoding.encode (substitute pairs text).1 = .ok data ∧
    ((∀ token ∈ slide.placeholders.keys, ¬ token.toList <:+: text) → data = last.data)

/-- An entry of a deck and what it becomes in the filled deck. -/
structure EntryFilled (encoding : Encoding) (deck : Archive) (table : Table)
    (resolve : Spec → Except ε String) (e e' : Entry) : Prop where
  name : e'.name = e.name
  stamp : e'.stamp = e.stamp
  method : e'.method = e.method
  system : e'.system = e.system
  comment : e'.comment = e.comment
  attributes : e'.attributes = if e.attributes = 0 then 0o600 <<< 16 else e.attributes
  extra : ∃ (records : List Bytes) (rest : Bytes), (∀ r ∈ records, IsRecord r) ∧ rest.length < 4 ∧
    e.extra = records.flatten ++ rest ∧
    e'.extra = (records.filter fun r => recordId r ≠ 0x0001).flatten ++ rest
  data_of_slide : ∀ slide ∈ table.slides, e.name = slidePath slide.page →
    SlideData encoding deck resolve slide e'.data
  data_of_other : (∀ page : Nat, page ∈ table.pages → e.name ≠ slidePath page) → e'.data = e.data

/-- A deck and what it becomes when it is filled. -/
structure DeckFilled (encoding : Encoding) (deck : Archive) (table : Table)
    (resolve : Spec → Except ε String) (f : Filled) : Prop where
  comment : f.archive.comment = deck.comment
  entries : List.Forall₂ (EntryFilled encoding deck table resolve) deck.entries f.archive.entries
  /-- No entry is made for a page that the deck does not have. -/
  absent : ∀ page : Nat, (∀ e ∈ deck.entries, e.name ≠ slidePath page) →
    ∀ e ∈ f.archive.entries, e.name ≠ slidePath page
  mem_filled : ∀ page : Nat, page ∈ f.filled ↔
    page ∈ table.pages ∧ ∃ e ∈ deck.entries, e.name = slidePath page
  filled_sublist : f.filled.Sublist table.pages
  skipped_sublist : f.skipped.Sublist table.pages
  disjoint : f.filled.Disjoint f.skipped
  perm : (f.filled ++ f.skipped).Perm table.pages

section

variable {encoding : Encoding} {deck : Archive} {table : Table} {resolve : Spec → Except ε String}

/-- **The data of a filled slide.** Without an occurrence of a token, the text is encoded as it was
decoded. -/
theorem slideData_of_fillSlide {slide : Slide} {s : FilledSlide}
    (h : fillSlide encoding deck resolve slide = .ok (some s)) :
    SlideData encoding deck resolve slide s.data := by
  obtain ⟨last, hlast, -, hs⟩ := fillSlide_eq_ok_some.1 h
  obtain ⟨text, texts, ht, hr, hd, -⟩ := fillData_eq_ok.1 hs
  refine ⟨last, text, replacements texts, ?_, ht, replacements_of_textsFor hr, hd, ?_⟩
  · rw [← find?_eq_getLast?, hlast]
  · intro habs
    have hsub : substitute (replacements texts) text = (text, 0) := by
      refine substitute_of_absent fun pair hp => ?_
      obtain ⟨token, htoken, hpair⟩ := exists_token_of_mem hr hp
      rw [hpair]
      exact ⟨toList_ne_nil htoken, habs token htoken⟩
    rw [hsub, Encoding.encode_of_decode ht] at hd
    exact (Except.ok.inj hd).symm

/-- **What becomes of an entry.** -/
theorem entryFilled_of_copyEntry {outcomes : List (Nat × Option FilledSlide)}
    (ho : List.Forall₂ (Outcome encoding deck resolve) table.slides outcomes) {e e' : Entry}
    (he : e ∈ deck.entries) (hopen : e.opened = .ok e)
    (h : copyEntry (filledSlides outcomes) e = .ok e') :
    EntryFilled encoding deck table resolve e e' := by
  have hdata {slide : Slide} (hs : slide ∈ table.slides) (hname : e.name = slidePath slide.page) :
      SlideData encoding deck resolve slide e'.data := by
    obtain ⟨s, hf, hd⟩ := data_of_copyEntry ho table.pages_nodup he h hs hname
    rw [hd]
    exact slideData_of_fillSlide hf
  obtain ⟨-, -, rfl⟩ := copyEntry_eq_ok.1 h
  exact
    { name := rfl
      stamp := rfl
      method := rfl
      system := rfl
      comment := rfl
      attributes := rfl
      extra := exists_records (Entry.opened_eq_ok.1 hopen).1
      data_of_slide := fun slide hs hname => hdata hs hname
      data_of_other := by
        intro hname
        have hnone : newData? (filledSlides outcomes) e.name = none :=
          newData?_of_ne ho fun slide hs => hname slide.page (List.mem_map_of_mem hs)
        rw [hnone]
        rfl }

end

/-- **Filling changes the data of slides and nothing else.** -/
theorem rewrite_preserves {encoding : Encoding} {template : Upload} {table : Table}
    {resolve : Spec → Except ε String} {f : Filled}
    (h : rewrite encoding template table resolve = .ok f) :
    ∃ deck, openTemplate template = .ok deck ∧ DeckFilled encoding deck table resolve f := by
  obtain ⟨deck, hopen, hf⟩ := rewrite_eq_ok.1 h
  obtain ⟨outcomes, entries, ho, he, rfl⟩ := fillOpened_eq_ok.1 hf
  have hfilled : (Filled.assemble ⟨deck.comment, entries⟩ outcomes).filled =
      table.pages.filter fun page : Nat => deck.contains (slidePath page) :=
        map_page_filledSlides ho
  have hskipped : (Filled.assemble ⟨deck.comment, entries⟩ outcomes).skipped =
      table.pages.filter fun page : Nat => !deck.contains (slidePath page) := skipped_assemble ho _
  refine ⟨deck, hopen, ?_⟩
  exact
    { comment := rfl
      entries := by
        have hmem : ∀ e ∈ deck.entries, e ∈ deck.entries ∧ e.opened = .ok e := fun e hm =>
          ⟨hm, opened_of_openTemplate hopen e hm⟩
        refine ((List.forall₂_and_left _ _).2 ⟨hmem, he⟩).imp ?_
        rintro e e' ⟨⟨hm, he⟩, hc⟩
        exact entryFilled_of_copyEntry ho hm he hc
      absent := by
        intro page habs e' hm' hname
        obtain ⟨e, hm, hc⟩ := exists_of_mem_right he e' hm'
        obtain ⟨-, -, rfl⟩ := copyEntry_eq_ok.1 hc
        exact habs e hm hname
      mem_filled := by
        intro page
        rw [hfilled, List.mem_filter, contains_iff]
      filled_sublist := hfilled ▸ List.filter_sublist
      skipped_sublist := hskipped ▸ List.filter_sublist
      disjoint := by
        intro page hm hm'
        rw [hfilled, List.mem_filter] at hm
        rw [hskipped, List.mem_filter, hm.2] at hm'
        exact Bool.false_ne_true hm'.2
      perm := by
        rw [hfilled, hskipped]
        exact List.filter_append_perm _ _ }

/-- A name that comes twice, missing attributes, and a record for a large entry. -/
theorem rewrite_preserves_smallDeck :
    rewrite .utf8 (.archive smallDeck) firstTable constantText = .ok smallFilled ∧
      DeckFilled .utf8 smallDeck firstTable constantText smallFilled := by
  obtain ⟨deck, hopen, hdeck⟩ := rewrite_preserves rewrite_smallDeck
  obtain rfl : deck = smallDeck := Except.ok.inj (hopen.symm.trans openTemplate_smallDeck)
  exact ⟨rewrite_smallDeck, hdeck⟩

end SlideMerge.Deck

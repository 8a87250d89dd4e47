import SlideMerge.Proofs.Filling
import SlideMerge.Proofs.Markup

/-!
# How filling fails

A template that is no archive, and a slide whose data is damaged or is no text, are faults of the
template and are reported as such. Here the texts for the tokens are given and can be written; the
question is what else can go wrong, and with which report.

**The text of a filled slide can be written** (`exists_encode_substitute`): its characters are those
of the slide, which have been read, those of the texts, and those of the entities, which are ASCII.

**Entries are read in two places.** The entry of a slide is read under its path, and there a wrong
checksum or layout counts as a fault of the slide, but not an encrypted entry, an unknown method, or
data that cannot be unpacked (`SlideDefect`). Every other entry is read when it is copied, and there
nothing counts (`Defect.copy`): a damaged entry that is only copied is not reported as a fault of
the template. Nor is a template that needs a later version (`openingFault`).

Main result: `rewrite_outcome`. It is about templates in which all data is unpacked
(`AllUnpacked`), since of two uncommon methods nothing is known here.
-/

namespace SlideMerge.Deck

open Text Archive Mapping Placeholder Workbook

variable {ε : Type}

/-- Whether a failure is reported as one of the template. -/
def FillFault.isTemplateFault : FillFault ε → Bool
  | template _ | slide _ _ => true
  | resolution _ | version _ | entry _ | encoding _ => false

/-- Each specification has a text, and the text can be written. -/
def Writable (encoding : Encoding) (resolve : Spec → Except ε String) : Prop :=
  ∀ spec, ∃ value, resolve spec = .ok value ∧ ∃ bytes, encoding.encode value.toList = .ok bytes

/-! ## Slides -/

section Slide

variable {encoding : Encoding} {deck : Archive} {resolve : Spec → Except ε String} {slide : Slide}

theorem exists_textsFor (hw : Writable encoding resolve) (placeholders : Keyed Spec) :
    ∃ texts, textsFor resolve placeholders = .ok texts := by
  rcases exists_ok_or_error (textsFor resolve placeholders) with h | ⟨fault, h⟩
  · exact h
  · obtain ⟨entry, -, he⟩ := exists_of_mapM_eq_error h
    obtain ⟨value, hv, -⟩ := hw entry.2
    rw [map_eq_error.1 he] at hv
    exact absurd hv error_ne_ok

/-- What is put in the place of a token can be written. -/
theorem lt_limit_of_mem_replacements (hw : Writable encoding resolve) {placeholders : Keyed Spec}
    {texts : Keyed String} (ht : textsFor resolve placeholders = .ok texts)
    {pair : List Char × List Char} (hp : pair ∈ replacements texts) :
    ∀ c ∈ pair.2, c.toNat < encoding.limit := by
  intro c hc
  obtain ⟨entry, -, value, hv, rfl⟩ := exists_of_mem_right (replacements_of_textsFor ht) pair hp
  obtain ⟨value', hv', written⟩ := hw entry.2
  obtain rfl : value = value' := Except.ok.inj (hv.symm.trans hv')
  dsimp only at hc
  rcases mem_escapeMarkup hc with hc | hc
  · have bound : 128 ≤ encoding.limit := by cases encoding <;> decide
    omega
  · exact Encoding.exists_encode_iff.1 written c hc

/-- **The text of a filled slide can be written.** -/
theorem exists_encode_substitute (hw : Writable encoding resolve) {placeholders : Keyed Spec}
    {texts : Keyed String} (ht : textsFor resolve placeholders = .ok texts) {data : Bytes}
    {text : List Char} (hd : encoding.decode data = .ok text) :
    ∃ bytes, encoding.encode (substitute (replacements texts) text).1 = .ok bytes := by
  rw [Encoding.exists_encode_iff]
  intro c hc
  rcases mem_substitute hc with ⟨pair, hp, hc⟩ | hc
  · exact lt_limit_of_mem_replacements hw ht hp c hc
  · exact Encoding.exists_encode_iff.1 ⟨data, Encoding.encode_of_decode hd⟩ c hc

/-- The only thing that can be wrong with the data of a slide is that it is no text. -/
theorem fillData_eq_error (hw : Writable encoding resolve) {data : Bytes} {fault : FillFault ε} :
    fillData encoding resolve slide data = .error fault ↔
      ∃ error, encoding.decode data = .error error ∧
        fault = .slide (slidePath slide.page) (.text encoding error) := by
  cases hd : encoding.decode data with
  | error error =>
    have run : fillData encoding resolve slide data =
        .error (.slide (slidePath slide.page) (.text encoding error)) := by
      rw [fillData, slideText, hd]
      rfl
    rw [run, Except.error.injEq]
    constructor
    · rintro rfl
      exact ⟨error, rfl, rfl⟩
    · rintro ⟨error', he, rfl⟩
      rw [Except.error.inj he]
  | ok text =>
    obtain ⟨texts, ht⟩ := exists_textsFor hw slide.placeholders
    obtain ⟨bytes, hb⟩ := exists_encode_substitute hw ht hd
    have run : fillData encoding resolve slide data = .ok ⟨slide.page, bytes, _⟩ :=
      fillData_eq_ok.2 ⟨text, texts, hd, ht, hb, rfl, rfl⟩
    rw [run]
    constructor
    · intro h
      cases h
    · rintro ⟨error, he, -⟩
      cases he

/-- What is wrong with the entry that the path of a slide stands for, and how it is reported. -/
inductive SlideDefect (encoding : Encoding) (deck : Archive) (slide : Slide) : FillFault ε → Prop
  /-- The entry cannot be read. -/
  | data {e : Entry} {cause : EntryFault} (found : deck.find? (slidePath slide.page) = some e)
      (unreadable : e.contents (quotedString (slidePath slide.page)) = .error cause) :
      SlideDefect encoding deck slide (slideDataFault (slidePath slide.page) cause)
  /-- The data of the entry is no text. -/
  | text {e : Entry} {error : Encoding.DecodeError}
      (found : deck.find? (slidePath slide.page) = some e) (readable : e.Readable)
      (malformed : encoding.decode e.data = .error error) :
      SlideDefect encoding deck slide (.slide (slidePath slide.page) (.text encoding error))

theorem fillSlide_eq_error (hw : Writable encoding resolve) {fault : FillFault ε} :
    fillSlide encoding deck resolve slide = .error fault ↔
      SlideDefect encoding deck slide fault := by
  constructor
  · intro h
    cases found : deck.find? (slidePath slide.page) with
    | none =>
      rw [fillSlide_of_none found] at h
      cases h
    | some e =>
      rw [fillSlide_of_some found, bind_eq_error, mapError_eq_error] at h
      rcases h with ⟨cause, hc, rfl⟩ | ⟨data, hc, h⟩
      · exact .data found hc
      · obtain ⟨readable, rfl⟩ := Entry.contents_eq_ok.1 (mapError_eq_ok.1 hc)
        obtain ⟨error, hd, rfl⟩ := (fillData_eq_error hw).1 (map_eq_error.1 h)
        exact .text found readable hd
  · rintro (@⟨e, cause, found, hc⟩ | @⟨e, error, found, readable, hd⟩)
    · rw [fillSlide_of_some found, hc]
      rfl
    · have hc : e.contents (quotedString (slidePath slide.page)) = .ok e.data :=
        Entry.contents_eq_ok.2 ⟨readable, rfl⟩
      have hf : fillData encoding resolve slide e.data = .error _ :=
        (fillData_eq_error hw).2 ⟨error, hd, rfl⟩
      rw [fillSlide_of_some found, hc, bind_eq_error]
      exact Or.inr ⟨e.data, rfl, map_eq_error.2 hf⟩

end Slide

/-! ## Decks -/

/-- What is wrong with a deck that has been opened and cannot be filled, and how it is reported. -/
inductive Defect (encoding : Encoding) (deck : Archive) (slides : List Slide) : FillFault ε → Prop
  | slide {slide : Slide} {fault : FillFault ε} (asked : slide ∈ slides)
      (defect : SlideDefect encoding deck slide fault) : Defect encoding deck slides fault
  /-- An entry that is only copied cannot be read. -/
  | copy {e : Entry} {cause : EntryFault} (mem : e ∈ deck.entries)
      (other : ∀ slide ∈ slides, e.name ≠ slidePath slide.page)
      (unreadable : e.contents e.listing = .error cause) :
      Defect encoding deck slides (.entry cause)
  /-- An entry cannot be written by the method that it has been written by. -/
  | method {e : Entry} (mem : e ∈ deck.entries) (unknown : e.method ∉ knownMethods) :
      Defect encoding deck slides (.entry .unknownMethod)
  /-- An entry cannot be written because its name has become too long. -/
  | name {e : Entry} (mem : e ∈ deck.entries)
      (long : maxNameSize < (encodeUtf8 e.name.toList).length) :
      Defect encoding deck slides (.entry .nameTooLong)

section Deck

variable {encoding : Encoding} {deck : Archive} {resolve : Spec → Except ε String}
  {slides : List Slide} {fault : FillFault ε}

/-- **A deck that cannot be filled has the defect that is reported.** -/
theorem defect_of_fillOpened (hw : Writable encoding resolve) (hn : (slides.map Slide.page).Nodup)
    (h : fillOpened encoding deck slides resolve = .error fault) :
    Defect encoding deck slides fault := by
  rcases fillOpened_eq_error h with ⟨slide, hs, hf⟩ | ⟨outcomes, ho, e, he, cause, hc, rfl⟩
  · exact .slide hs ((fillSlide_eq_error hw).1 hf)
  · rcases copyEntry_eq_error hc with ⟨hnew, unreadable⟩ | ⟨unknown, rfl⟩ | ⟨-, long, rfl⟩
    · refine .copy he (fun slide hs hname => ?_) unreadable
      -- the entry of a slide is written with the data of the slide
      obtain ⟨⟨page, outcome⟩, -, hout⟩ := exists_of_mem_left ho slide hs
      have present := hout.isSome_eq
      rw [contains_iff.2 ⟨e, he, hname⟩] at present
      obtain ⟨s, rfl⟩ := Option.isSome_iff_exists.1 present
      rw [hname, newData?_slidePath ho hn hs hout.2] at hnew
      exact Option.some_ne_none _ hnew
    · exact .method he unknown
    · exact .name he long

/-- **A deck with a defect cannot be filled.** -/
theorem fillOpened_ne_ok (hw : Writable encoding resolve) (h : Defect encoding deck slides fault)
    (f : Filled) : fillOpened encoding deck slides resolve ≠ .ok f := by
  intro hf
  obtain ⟨outcomes, entries, ho, copies, -⟩ := fillOpened_eq_ok.1 hf
  cases h with
  | slide asked defect =>
    obtain ⟨o, -, hout⟩ := exists_of_mem_left ho _ asked
    exact error_ne_ok (((fillSlide_eq_error hw).2 defect).symm.trans hout.2)
  | copy mem other unreadable =>
    obtain ⟨e', -, copied⟩ := exists_of_mem_left copies _ mem
    have readable := (copyEntry_eq_ok.1 copied).2.1 (newData?_of_ne ho other)
    exact Entry.not_readable unreadable readable
  | method mem unknown =>
    obtain ⟨e', -, copied⟩ := exists_of_mem_left copies _ mem
    exact unknown (copyEntry_eq_ok.1 copied).1.known
  | name mem long =>
    obtain ⟨e', -, copied⟩ := exists_of_mem_left copies _ mem
    exact absurd (copyEntry_eq_ok.1 copied).1.named (Nat.not_le.2 long)

/-- Where each entry can be read and written, all that can be wrong is that a slide is no text. -/
theorem Defect.isTemplateFault (h : Defect encoding deck slides fault)
    (sound : ∀ e ∈ deck.entries, e.Readable ∧ e.Storable) : fault.isTemplateFault := by
  cases h with
  | slide asked defect =>
    cases defect with
    | data found unreadable =>
      exact absurd (sound _ (mem_of_find? found)).1 (Entry.not_readable unreadable)
    | text => rfl
  | copy mem other unreadable => exact absurd (sound _ mem).1 (Entry.not_readable unreadable)
  | method mem unknown => exact absurd (sound _ mem).2.known unknown
  | name mem long => exact absurd (sound _ mem).2.named (Nat.not_le.2 long)

theorem entry_of_slideDataFault {path : String} {cause cause' : EntryFault}
    (h : (slideDataFault path cause : FillFault ε) = .entry cause') : cause = cause' := by
  rw [slideDataFault] at h
  split_ifs at h
  exact FillFault.entry.inj h

/-- What is reported says what is wrong, if all data is unpacked. -/
theorem Defect.ne_otherPacking (h : Defect encoding deck slides fault)
    (unpacked : ∀ e ∈ deck.entries, e.damage ≠ some .otherPacking) :
    fault ≠ .entry (.damaged .otherPacking) := by
  cases h with
  | slide asked defect =>
    cases defect with
    | data found unreadable =>
      intro hf
      refine unpacked _ (mem_of_find? found) (Entry.damage_of_contents (unreadable.trans ?_))
      rw [entry_of_slideDataFault hf]
    | text => exact nofun
  | copy mem other unreadable =>
    rintro ⟨⟩
    exact unpacked _ mem (Entry.damage_of_contents unreadable)
  | method mem unknown => exact nofun
  | name mem long => exact nofun

end Deck

/-! ## Templates -/

/-- No entry of a template is packed by a method that is not unpacked here. -/
def AllUnpacked (template : Upload) : Prop :=
  ∀ deck, openTemplate template = .ok deck →
    ∀ e ∈ deck.entries, e.damage ≠ some .otherPacking

/-- A template can be read by this version, and its entries can be read and written. -/
structure Sound (template : Upload) : Prop where
  version : ∀ needed, openTemplate template ≠ .error (.newerVersion needed)
  entries : ∀ deck, openTemplate template = .ok deck → ∀ e ∈ deck.entries, e.Readable ∧ e.Storable

theorem isTemplateFault_openingFault {cause : OpenFault}
    (h : ∀ needed, cause ≠ .newerVersion needed) :
    (openingFault cause : FillFault ε).isTemplateFault := by
  cases cause with
  | newerVersion needed => exact absurd rfl (h needed)
  | _ => rfl

theorem openingFault_ne_entry (cause : OpenFault) (fault : EntryFault) :
    (openingFault cause : FillFault ε) ≠ .entry fault := by
  cases cause <;> nofun

section Template

variable {encoding : Encoding} {template : Upload} {table : Table}
  {resolve : Spec → Except ε String}

theorem rewrite_eq_error (hw : Writable encoding resolve) {fault : FillFault ε}
    (h : rewrite encoding template table resolve = .error fault) :
    (∃ cause, openTemplate template = .error cause ∧ fault = openingFault cause) ∨
      ∃ deck, openTemplate template = .ok deck ∧ Defect encoding deck table.slides fault := by
  rw [rewrite_eq_bind, bind_eq_error, mapError_eq_error] at h
  rcases h with ⟨cause, hc, rfl⟩ | ⟨deck, ho, hf⟩
  · exact Or.inl ⟨cause, hc, rfl⟩
  · exact Or.inr ⟨deck, mapError_eq_ok.1 ho, defect_of_fillOpened hw table.pages_nodup hf⟩

/-- A template is filled if it can be opened and the deck in it has no defect. -/
theorem exists_rewrite_iff (hw : Writable encoding resolve) :
    (∃ f, rewrite encoding template table resolve = .ok f) ↔
      ∃ deck, openTemplate template = .ok deck ∧
        ∀ fault : FillFault ε, ¬ Defect encoding deck table.slides fault := by
  constructor
  · rintro ⟨f, h⟩
    obtain ⟨deck, ho, hf⟩ := rewrite_eq_ok.1 h
    exact ⟨deck, ho, fun fault defect => fillOpened_ne_ok hw defect f hf⟩
  · rintro ⟨deck, ho, sound⟩
    rcases exists_ok_or_error (rewrite encoding template table resolve) with h | ⟨fault, h⟩
    · exact h
    · rcases rewrite_eq_error hw h with ⟨cause, hc, -⟩ | ⟨deck', ho', defect⟩
      · rw [ho] at hc
        cases hc
      · obtain rfl : deck' = deck := Except.ok.inj (ho'.symm.trans ho)
        exact absurd defect (sound fault)

theorem isTemplateFault_of_sound (hw : Writable encoding resolve) (sound : Sound template)
    {fault : FillFault ε} (h : rewrite encoding template table resolve = .error fault) :
    fault.isTemplateFault := by
  rcases rewrite_eq_error hw h with ⟨cause, hc, rfl⟩ | ⟨deck, ho, defect⟩
  · refine isTemplateFault_openingFault ?_
    rintro needed rfl
    exact sound.version needed hc
  · exact defect.isTemplateFault (sound.entries deck ho)

/-- **When a template is filled, and what is reported if it is not.** If the texts can be written
and all data is unpacked, a template is filled unless it cannot be opened or the deck in it has a
defect, and that is what is reported. It is a fault of the template if the template is sound. -/
theorem rewrite_outcome (hw : Writable encoding resolve) (unpacked : AllUnpacked template) :
    (∀ fault, rewrite encoding template table resolve = .error fault →
      fault ≠ .entry (.damaged .otherPacking) ∧
      ((∃ cause, openTemplate template = .error cause ∧ fault = openingFault cause) ∨
        ∃ deck, openTemplate template = .ok deck ∧ Defect encoding deck table.slides fault)) ∧
    ((∃ f, rewrite encoding template table resolve = .ok f) ↔
      ∃ deck, openTemplate template = .ok deck ∧
        ∀ fault : FillFault ε, ¬ Defect encoding deck table.slides fault) ∧
    (Sound template →
      (∃ f, rewrite encoding template table resolve = .ok f) ∨
        ∃ fault, rewrite encoding template table resolve = .error fault ∧
          fault.isTemplateFault) := by
  refine ⟨fun fault h => ⟨?_, rewrite_eq_error hw h⟩, exists_rewrite_iff hw, fun sound => ?_⟩
  · rcases rewrite_eq_error hw h with ⟨cause, -, rfl⟩ | ⟨deck, ho, defect⟩
    · exact openingFault_ne_entry cause _
    · exact defect.ne_otherPacking (unpacked deck ho)
  · refine (exists_ok_or_error (rewrite encoding template table resolve)).imp_right ?_
    rintro ⟨fault, h⟩
    exact ⟨fault, h, isTemplateFault_of_sound hw sound h⟩

end Template

/-- A deck with an entry beside its slide that declares a wrong checksum. -/
def damagedDeck : Archive where
  comment := []
  entries :=
    [entryOfText (slidePath 2) "[A]" 0 [],
      { entryOfText "docProps/app.xml" "[A]" 0 [] with declared := 1 }]

/-- A deck with a slide that is packed by an unknown method. -/
def foreignDeck : Archive where
  comment := []
  entries := [{ entryOfText (slidePath 2) "[A]" 0 [] with method := 99 }]

theorem writable_constantText : Writable .utf8 constantText := by
  intro spec
  cases spec <;> exact ⟨_, rfl, _, rfl⟩

theorem rewrite_damagedDeck :
    rewrite .utf8 (.archive damagedDeck) firstTable constantText =
      .error (.entry (.badChecksum "docProps/app.xml")) := by
  decide +kernel

/-- All data of an archive that is found as it is has been unpacked, if no entry is damaged. -/
theorem allUnpacked_archive {a : Archive} (once : a.endsOnce)
    (h : ∀ e ∈ a.entries, e.damage = none) :
    AllUnpacked (.archive a) := by
  intro deck ho e he
  obtain ⟨found, hf, ho⟩ := bind_eq_ok.1 ho
  obtain rfl : a = found := Except.ok.inj ((if_pos once).symm.trans hf)
  obtain ⟨raw, hraw, hopen⟩ := exists_of_mem_right (opened_eq_ok.1 ho).2 e he
  obtain ⟨-, rfl⟩ := Entry.opened_eq_ok.1 hopen
  intro hd
  exact Option.some_ne_none _ (hd.symm.trans (h raw hraw))

/-- The defect of the damaged deck. -/
theorem rewrite_outcome_damagedDeck :
    Writable .utf8 constantText ∧ AllUnpacked (.archive damagedDeck) ∧
    rewrite .utf8 (.archive damagedDeck) firstTable constantText =
      .error (.entry (.badChecksum "docProps/app.xml")) ∧
    ∃ deck, openTemplate (.archive damagedDeck) = .ok deck ∧
      Defect .utf8 deck firstTable.slides
        (.entry (.badChecksum "docProps/app.xml") : FillFault Empty) := by
  have unpacked : AllUnpacked (.archive damagedDeck) :=
    allUnpacked_archive (by decide +kernel) (by decide +kernel)
  refine ⟨writable_constantText, unpacked, rewrite_damagedDeck, ?_⟩
  obtain ⟨-, ⟨cause, -, h⟩ | h⟩ :=
    (rewrite_outcome writable_constantText unpacked).1 _ rewrite_damagedDeck
  · exact absurd h.symm (openingFault_ne_entry cause _)
  · exact h

/-- **Not every failure to read an entry is reported as one of the template:** neither that of an
entry which is copied, nor that of a slide whose method is unknown. -/
theorem exists_not_isTemplateFault :
    Writable .utf8 constantText ∧
    (∃ fault, rewrite .utf8 (.archive damagedDeck) firstTable constantText = .error fault ∧
      ¬ fault.isTemplateFault) ∧
    ∃ fault, rewrite .utf8 (.archive foreignDeck) firstTable constantText = .error fault ∧
      ¬ fault.isTemplateFault := by
  have foreign : rewrite .utf8 (.archive foreignDeck) firstTable constantText =
      .error (.entry .unknownMethod) := by decide +kernel
  exact ⟨writable_constantText, ⟨_, rewrite_damagedDeck, by decide⟩, _, foreign, by decide⟩

end SlideMerge.Deck

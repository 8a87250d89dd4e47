import SlideMerge.Merge.Generate
import SlideMerge.Proofs.Filling
import SlideMerge.Proofs.Snapshot

/-!
# Generation is all or nothing

A request for a deck ends in one of three ways, and what decides is told by the inputs alone
(`Yields`).

* **It is rejected** if a check fails, and then the first one that does is reported. The checks are
  written down as a list (`Inputs.checks`), in the order in which they are made.
* **It yields a deck** if all checks pass, the workbook has a snapshot and the template is filled
  with it.
* **It fails** otherwise, with the fault of the workbook or of the template.

Main result: `generate_allOrNothing`, for each measure of the sizes of uploads.
-/

namespace SlideMerge.Merge

open Mapping Placeholder Workbook Deck

/-! ## The checks in their order -/

namespace Input

/-- There is no upload, or nothing in it. -/
def isMissing (i : Input) : Bool :=
  i.upload.all Upload.isEmpty

/-- The upload has a name, and that ends in no accepted suffix. -/
def isMisnamed (i : Input) (role : InputRole) : Bool :=
  i.filename.any fun name => name ≠ "" && !hasSuffix role name

/-- The number of bytes of the upload. -/
def size (measure : Upload → Nat) (i : Input) : Nat :=
  (i.upload.map measure).getD 0

theorem content_of_missing {i : Input} (h : i.isMissing) (role : InputRole) :
    i.content role = .error (.missing role) := by
  unfold content
  cases hu : i.upload with
  | none => rfl
  | some upload =>
    have empty : upload.isEmpty := by simpa [isMissing, hu] using h
    simp [empty]

theorem exists_content {i : Input} (h : i.isMissing = false) :
    ∃ upload, i.upload = some upload ∧ ∀ role, i.content role = .ok upload := by
  cases hu : i.upload with
  | none => simp [isMissing, hu] at h
  | some upload =>
    have nonempty : upload.isEmpty = false := by simpa [isMissing, hu] using h
    exact ⟨upload, rfl, fun role => by simp [content, hu, nonempty]⟩

theorem checkName_eq (i : Input) (role : InputRole) :
    i.checkName role = if i.isMisnamed role then .error (.wrongKind role) else .ok () := by
  unfold checkName isMisnamed
  cases i.filename with
  | none => rfl
  | some name =>
    by_cases empty : name = ""
    · simp [empty]
    · by_cases suffix : hasSuffix role name <;> simp [empty, suffix]

end Input

/-- An upload of more bytes than there may be. -/
def isTooLarge (settings : Settings) (size : Nat) : Bool :=
  settings.maxUploadSize ≠ 0 && settings.maxUploadSize < size

theorem checkSize_eq (settings : Settings) (role : InputRole) (size : Nat) :
    checkSize settings.maxUploadSize role size =
      if isTooLarge settings size then .error (.tooLarge role size settings.maxUploadSize)
      else .ok () := by
  simp [checkSize, isTooLarge]

namespace Inputs

variable (measure : Upload → Nat) (settings : Settings) (inputs : Inputs)

/-- The checks in their order: what each one reports, and whether it fails. -/
def checks : List (InputFault × Bool) :=
  let templateSize := inputs.template.size measure
  let workbookSize := inputs.workbook.size measure
  [(.missing .template, inputs.template.isMissing),
   (.missing .workbook, inputs.workbook.isMissing),
   (.wrongKind .template, inputs.template.isMisnamed .template),
   (.wrongKind .workbook, inputs.workbook.isMisnamed .workbook),
   (.tooLarge .template templateSize settings.maxUploadSize, isTooLarge settings templateSize),
   (.tooLarge .workbook workbookSize settings.maxUploadSize, isTooLarge settings workbookSize)]

/-- What the first check that fails reports. -/
def firstFault? : Option InputFault :=
  ((inputs.checks measure settings).find? (·.2)).map (·.1)

variable {measure settings inputs}

variable (measure settings inputs) in
/-- No check fails, and these are the uploads. -/
def Accepts (accepted : Accepted) : Prop :=
  inputs.firstFault? measure settings = none ∧ inputs.template.upload = some accepted.template ∧
    inputs.workbook.upload = some accepted.workbook

variable (measure settings inputs) in
/-- **The first check that fails is reported,** and if none does, the uploads are accepted. -/
theorem checkBy_outcome :
    (∃ fault, inputs.firstFault? measure settings = some fault ∧
      inputs.checkBy measure settings = .error fault) ∨
    ∃ accepted, inputs.Accepts measure settings accepted ∧
      inputs.checkBy measure settings = .ok accepted := by
  unfold checkBy
  simp only [Accepts, firstFault?, checks, List.find?_cons]
  -- each check is reached if those before it have been passed
  by_cases noTemplate : inputs.template.isMissing
  · left
    simp [noTemplate, Input.content_of_missing noTemplate, bind, Except.bind]
  obtain ⟨template, ht, contentT⟩ := Input.exists_content (Bool.eq_false_iff.2 noTemplate)
  by_cases noWorkbook : inputs.workbook.isMissing
  · left
    simp [noTemplate, noWorkbook, contentT, Input.content_of_missing noWorkbook, bind, Except.bind]
  obtain ⟨workbook, hw, contentW⟩ := Input.exists_content (Bool.eq_false_iff.2 noWorkbook)
  simp only [noTemplate, noWorkbook, contentT, contentW, Input.checkName_eq, checkSize_eq,
    Input.size, ht, hw, Option.map_some, Option.getD_some]
  by_cases nameT : inputs.template.isMisnamed .template
  · simp [nameT, bind, Except.bind]
  by_cases nameW : inputs.workbook.isMisnamed .workbook
  · simp [nameT, nameW, bind, Except.bind]
  by_cases sizeT : isTooLarge settings (measure template)
  · simp [nameT, nameW, sizeT, bind, Except.bind]
  by_cases sizeW : isTooLarge settings (measure workbook)
  · simp [nameT, nameW, sizeT, sizeW, bind, Except.bind]
  · right
    exact ⟨⟨template, workbook⟩, by simp [nameT, nameW, sizeT, sizeW, bind, Except.bind]⟩

theorem checkBy_eq_ok {accepted : Accepted} :
    inputs.checkBy measure settings = .ok accepted ↔ inputs.Accepts measure settings accepted := by
  obtain ⟨template, workbook⟩ := accepted
  rcases checkBy_outcome measure settings inputs with
    ⟨fault, hf, hc⟩ | ⟨⟨template', workbook'⟩, ⟨hf, ht, hw⟩, hc⟩
  · simp [hc, Accepts, hf]
  · simp [hc, Accepts, hf, ht, hw]

theorem checkBy_eq_error {fault : InputFault} :
    inputs.checkBy measure settings = .error fault ↔
      inputs.firstFault? measure settings = some fault := by
  rcases checkBy_outcome measure settings inputs with
    ⟨fault', hf, hc⟩ | ⟨accepted, ⟨hf, -, -⟩, hc⟩
  · simp [hc, hf]
  · simp [hc, hf]

end Inputs

/-! ## What a request yields -/

/-- The texts that the cells of a worksheet give to specifications. -/
def textsOf (sheet : Sheet.Snapshot) (spec : Spec) : Except Empty String :=
  .ok (resolve sheet spec)

/-- The message of a failure without the words that introduce it. -/
def GenerateFault.cause : GenerateFault → String
  | load fault => fault.message
  | fill fault => fault.message

theorem GenerateFault.message_eq (fault : GenerateFault) :
    fault.message = "Generate failed: " ++ fault.cause := by
  cases fault <;> rfl

/-- What filling the template with the snapshot of the workbook comes to. -/
inductive Merges (table : Table) (accepted : Accepted) (name : Option String) :
    Except GenerateFault Filled → Prop
  | deck {sheet : Sheet.Snapshot} {deck : Filled}
      (loaded : loadFirstSheet accepted.workbook name = .ok sheet)
      (filled : rewrite .utf8 accepted.template table (textsOf sheet) = .ok deck) :
      Merges table accepted name (.ok deck)
  /-- The workbook has no snapshot. -/
  | load {fault : LoadFault} (unloaded : loadFirstSheet accepted.workbook name = .error fault) :
      Merges table accepted name (.error (.load fault))
  /-- The template cannot be filled. -/
  | fill {sheet : Sheet.Snapshot} {fault : FillFault}
      (loaded : loadFirstSheet accepted.workbook name = .ok sheet)
      (unfilled : rewrite .utf8 accepted.template table (textsOf sheet) = .error fault) :
      Merges table accepted name (.error (.fill fault))

theorem mergeDeck_eq_iff {table : Table} {accepted : Accepted} {name : Option String}
    {result : Except GenerateFault Filled} :
    mergeDeck table accepted name = result ↔ Merges table accepted name result := by
  have merges : Merges table accepted name (mergeDeck table accepted name) := by
    unfold mergeDeck
    cases loaded : loadFirstSheet accepted.workbook name with
    | error fault => exact .load loaded
    | ok sheet =>
      show Merges table accepted name
        ((rewrite .utf8 accepted.template table (textsOf sheet)).mapError .fill)
      cases filled : rewrite .utf8 accepted.template table (textsOf sheet) with
      | error fault => exact .fill loaded filled
      | ok deck => exact .deck loaded filled
  constructor
  · intro h
    rwa [← h]
  · intro h
    unfold mergeDeck
    cases h with
    | deck loaded filled =>
      rw [loaded]
      exact mapError_eq_ok.2 filled
    | load unloaded =>
      rw [unloaded]
      rfl
    | fill loaded unfilled =>
      rw [loaded]
      exact mapError_eq_error.2 ⟨_, unfilled, rfl⟩

/-- What a request with a mapping table yields. -/
inductive Yields (measure : Upload → Nat) (settings : Settings) (table : Table) (inputs : Inputs) :
    Outcome → Prop
  | rejected {fault : InputFault} (first : inputs.firstFault? measure settings = some fault) :
      Yields measure settings table inputs (.rejected fault)
  | generated {accepted : Accepted} {deck : Filled}
      (accepts : inputs.Accepts measure settings accepted)
      (merges : Merges table accepted inputs.workbook.filename (.ok deck)) :
      Yields measure settings table inputs (.generated deck)
  | failed {accepted : Accepted} {fault : GenerateFault}
      (accepts : inputs.Accepts measure settings accepted)
      (merges : Merges table accepted inputs.workbook.filename (.error fault)) :
      Yields measure settings table inputs (.failed fault)

section Request

variable {measure : Upload → Nat} {settings : Settings} {table : Table} {inputs : Inputs}

/-- **A request yields one outcome,** and that is its answer. -/
theorem outcomeOf_eq_iff {outcome : Outcome} :
    outcomeOf measure settings table inputs = outcome ↔
      Yields measure settings table inputs outcome := by
  unfold outcomeOf
  constructor
  · intro h
    split at h
    · next fault hc =>
      rw [← h]
      exact .rejected (Inputs.checkBy_eq_error.1 hc)
    · next accepted hc =>
      have accepts := Inputs.checkBy_eq_ok.1 hc
      split at h
      · next deck hm =>
        rw [← h]
        exact .generated accepts (mergeDeck_eq_iff.1 hm)
      · next fault hm =>
        rw [← h]
        exact .failed accepts (mergeDeck_eq_iff.1 hm)
  · intro h
    cases h with
    | rejected first => simp only [Inputs.checkBy_eq_error.2 first]
    | generated accepts merges =>
      simp only [Inputs.checkBy_eq_ok.2 accepts, mergeDeck_eq_iff.2 merges]
    | failed accepts merges =>
      simp only [Inputs.checkBy_eq_ok.2 accepts, mergeDeck_eq_iff.2 merges]

end Request

/-! ## What a caller is told -/

namespace Outcome

/-- Whether there is a deck. -/
def isGenerated : Outcome → Bool
  | generated _ => true
  | _ => false

/-- The archive of the deck, if there is one. -/
def content? (o : Outcome) : Option Archive :=
  o.deck?.map Filled.archive

/-- The pages that have been filled; none without a deck. -/
def filledPages (o : Outcome) : List Nat :=
  (o.deck?.map Filled.filled).getD []

/-- The pages that the template does not have; none without a deck. -/
def skippedPages (o : Outcome) : List Nat :=
  (o.deck?.map Filled.skipped).getD []

theorem isGenerated_iff_content? (o : Outcome) : o.isGenerated ↔ o.content?.isSome := by
  cases o <;> simp [isGenerated, content?, deck?]

theorem isGenerated_iff_error? (o : Outcome) : o.isGenerated ↔ o.error? = none := by
  cases o <;> simp [isGenerated, error?]

theorem nothing_of_not_isGenerated {o : Outcome} (h : o.isGenerated = false) :
    o.content? = none ∧ o.filledPages = [] ∧ o.skippedPages = [] := by
  cases o with
  | generated => cases h
  | rejected | failed => exact ⟨rfl, rfl, rfl⟩

end Outcome

namespace Yields

variable {measure : Upload → Nat} {settings : Settings} {table : Table} {inputs : Inputs}
  {o : Outcome} (yields : Yields measure settings table inputs o)

include yields

theorem eq_of {o' : Outcome} (h : Yields measure settings table inputs o') : o = o' := by
  rw [← outcomeOf_eq_iff.2 yields, outcomeOf_eq_iff.2 h]

/-- A deck that the uploads are merged to is what comes of the request. -/
theorem eq_generated {accepted : Accepted} {sheet : Sheet.Snapshot} {deck : Filled}
    (accepts : inputs.Accepts measure settings accepted)
    (loaded : loadFirstSheet accepted.workbook inputs.workbook.filename = .ok sheet)
    (filled : rewrite .utf8 accepted.template table (textsOf sheet) = .ok deck) :
    o = .generated deck :=
  yields.eq_of (.generated accepts (.deck loaded filled))

theorem isGenerated_iff :
    o.isGenerated ↔ ∃ accepted sheet deck, inputs.Accepts measure settings accepted ∧
      loadFirstSheet accepted.workbook inputs.workbook.filename = .ok sheet ∧
      rewrite .utf8 accepted.template table (textsOf sheet) = .ok deck := by
  constructor
  · intro generated
    cases yields with
    | rejected | failed => cases generated
    | generated accepts merges =>
      cases merges with
      | deck loaded filled => exact ⟨_, _, _, accepts, loaded, filled⟩
  · rintro ⟨accepted, sheet, deck, accepts, loaded, filled⟩
    rw [yields.eq_generated accepts loaded filled]
    rfl

theorem isRejected_iff : o.isRejected ↔ (inputs.firstFault? measure settings).isSome := by
  cases yields with
  | rejected first => simp [Outcome.isRejected, first]
  | generated accepts merges => simp [Outcome.isRejected, accepts.1]
  | failed accepts merges => simp [Outcome.isRejected, accepts.1]

theorem error?_of_firstFault? {fault : InputFault}
    (first : inputs.firstFault? measure settings = some fault) : o.error? = some fault.message := by
  rw [yields.eq_of (.rejected first)]
  rfl

/-- What is neither a deck nor a rejection is a failure of accepted uploads. -/
theorem error?_of_failed (notGenerated : o.isGenerated = false)
    (notRejected : o.isRejected = false) :
    ∃ accepted fault, inputs.Accepts measure settings accepted ∧
      Merges table accepted inputs.workbook.filename (.error fault) ∧
      o.error? = some ("Generate failed: " ++ fault.cause) := by
  cases yields with
  | rejected => cases notRejected
  | generated => cases notGenerated
  | failed accepts merges =>
    exact ⟨_, _, accepts, merges, congrArg some (GenerateFault.message_eq _)⟩

end Yields

theorem tableFor_mem (id : Option String) (fallback : String) :
    tableFor id fallback ∈ registeredTables := by
  have registered {key : String} {table : Table} (h : registered? key = some table) :
      table ∈ registeredTables := List.mem_of_find?_eq_some h
  unfold tableFor
  dsimp only
  cases asked : registered? (String.ofList (Text.trim (id.getD "").toList)) with
  | some table => exact registered asked
  | none =>
    cases other : registered? fallback with
    | some table => exact registered other
    | none => exact List.mem_cons_self

/-- **Generation is all or nothing.** Whatever the uploads measure, an answer names a registered
table, and has either a deck or a message. There is a deck if no check fails, the workbook has a
snapshot and the template is filled with it, and then the content and the pages are those of the
filled template. If a check fails, the message is that of the first one. Otherwise it tells, after
the same words, why the workbook has no snapshot or the template cannot be filled. Without a deck
there are no pages. -/
theorem generate_allOrNothing (measure : Upload → Nat) (settings : Settings) (request : Request) :
    let table := tableFor request.table settings.defaultTable
    let inputs := request.inputs
    let name := inputs.workbook.filename
    let answer := generateBy measure settings request
    let outcome := answer.outcome
    (table ∈ registeredTables ∧ answer.table = table.id) ∧
    (outcome.isGenerated ↔ outcome.content?.isSome) ∧
    (outcome.isGenerated ↔ outcome.error? = none) ∧
    (outcome.isGenerated ↔ ∃ accepted sheet deck, inputs.Accepts measure settings accepted ∧
      loadFirstSheet accepted.workbook name = .ok sheet ∧
      rewrite .utf8 accepted.template table (textsOf sheet) = .ok deck) ∧
    (∀ accepted sheet deck, inputs.Accepts measure settings accepted →
      loadFirstSheet accepted.workbook name = .ok sheet →
      rewrite .utf8 accepted.template table (textsOf sheet) = .ok deck →
      outcome.content? = some deck.archive ∧ outcome.filledPages = deck.filled ∧
        outcome.skippedPages = deck.skipped) ∧
    (outcome.isRejected ↔ (inputs.firstFault? measure settings).isSome) ∧
    (∀ fault, inputs.firstFault? measure settings = some fault →
      outcome.error? = some fault.message) ∧
    (outcome.isGenerated = false → outcome.isRejected = false →
      ∃ accepted fault, inputs.Accepts measure settings accepted ∧
        Merges table accepted name (.error fault) ∧
        outcome.error? = some ("Generate failed: " ++ fault.cause)) ∧
    (outcome.isGenerated = false →
      outcome.content? = none ∧ outcome.filledPages = [] ∧ outcome.skippedPages = []) := by
  intro table inputs name answer outcome
  have yields : Yields measure settings table inputs outcome := outcomeOf_eq_iff.1 rfl
  refine ⟨⟨tableFor_mem _ _, rfl⟩, outcome.isGenerated_iff_content?,
    outcome.isGenerated_iff_error?, yields.isGenerated_iff, ?_, yields.isRejected_iff,
    fun fault first => yields.error?_of_firstFault? first, yields.error?_of_failed,
    Outcome.nothing_of_not_isGenerated⟩
  intro accepted sheet deck accepts loaded filled
  rw [yields.eq_generated accepts loaded filled]
  exact ⟨rfl, rfl, rfl⟩

/-! ## A request that yields a deck -/

/-- A template of one slide. -/
def oneSlide (text : String) : Archive :=
  ⟨[], [entryOfText (slidePath 6) text 1 []]⟩

/-- A request for a deck of new tools. -/
def rosterRequest : Request where
  table := some " new_tools "
  inputs :=
    { template := ⟨some (.archive (oneSlide "<t>[1]: [2]</t>")), some "Deck.PPTX"⟩
      workbook := ⟨some (.workbook .legacy rosterBook []), none⟩ }
  filename := none

/-- The deck with the slide filled, whose texts the table has. -/
def rosterDeck : Filled where
  archive := oneSlide "<t>N/A: N/A</t>"
  filled := [6]
  skipped := [1, 3, 4, 5, 7, 8, 9, 10, 11, 12, 13]
  replacements := 2

theorem accepts_rosterRequest :
    rosterRequest.inputs.Accepts (fun _ => 1000) .default
      ⟨.archive (oneSlide "<t>[1]: [2]</t>"), .workbook .legacy rosterBook []⟩ :=
  ⟨by decide +kernel, rfl, rfl⟩

theorem rewrite_oneSlide :
    rewrite .utf8 (.archive (oneSlide "<t>[1]: [2]</t>")) newTools (textsOf rosterSnapshot) =
      .ok rosterDeck := by
  decide +kernel

/-- A deck is generated from the roster and a template of the sixth slide. -/
theorem generate_allOrNothing_rosterRequest :
    let outcome := (generateBy (fun _ => 1000) .default rosterRequest).outcome
    outcome.isGenerated ∧ outcome.error? = none ∧ outcome.filledPages = [6] ∧
      outcome.content? = some (oneSlide "<t>N/A: N/A</t>") := by
  intro outcome
  obtain ⟨-, -, message, deck, pages, -⟩ :=
    generate_allOrNothing (fun _ => 1000) .default rosterRequest
  have generated : outcome.isGenerated :=
    deck.2 ⟨_, _, _, accepts_rosterRequest, loadFirstSheet_rosterBook, rewrite_oneSlide⟩
  obtain ⟨content, filled, -⟩ :=
    pages _ _ _ accepts_rosterRequest loadFirstSheet_rosterBook rewrite_oneSlide
  exact ⟨generated, message.1 generated, filled, content⟩

end SlideMerge.Merge

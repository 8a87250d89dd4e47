import Mathlib.Tactic.Ring
import SlideMerge.Proofs.Substitution

/-!
# Counting and replacing

A step of a substitution reads the text twice: the occurrences of the token are counted in one pass,
and then looked for one after another and replaced. The two agree on what the occurrences are.

**Factorings** (`Factors`). A text is cut at the occurrences of a token so that each of them is the
first one in what is left of the text: a piece with the token behind it holds the token at its end
only, and the last piece does not hold it. There is one way to do so (`Factors.unique`,
`factors_piecesAt`). The value plays no part in it, so a value that holds its own token is not
searched.

**Counting** passes over an occurrence as a whole, and so it counts the cuts
(`Factors.occurrences_eq`). **Replacing** finds the end of each piece as the first occurrence in the
rest (`EndsOnly.cutAtFirst?`), and so it puts the value at each cut (`Factors.replaced_eq`).

**Steps** (`Steps`). A substitution factors the text once for each token, and then what the step has
left. The count is the number of all cuts, and each of them changes the length by the difference of
value and token (`Steps.count_eq`, `Steps.length_substitute`).

Main result: `substitute_counted`.
-/

namespace SlideMerge.Deck

/-! ## Factorings -/

/-- The piece with the token behind it holds the token at the end only. -/
def EndsOnly (token piece : List Char) : Prop :=
  ∀ before after, piece ++ token = before ++ (token ++ after) → after = []

/-- The text cut at the occurrences of a token, each of which is the first one in what is left. -/
structure Factors (token text : List Char) (p : Pieces) : Prop where
  /-- With the token at each cut the pieces are the text. -/
  join_eq : p.join token = text
  /-- Before a cut there is no occurrence but the one at the cut. -/
  endsOnly : ∀ piece ∈ p.all.dropLast, EndsOnly token piece
  /-- Behind the last cut there is none. -/
  absent : ∀ piece ∈ p.all.getLast?, ¬ token <:+: piece

theorem endsOnly_nil (token : List Char) : EndsOnly token [] := by
  intro before after h
  have length := congrArg List.length h
  simp only [List.length_append, List.length_nil] at length
  exact List.eq_nil_of_length_eq_zero (by omega)

/-- An occurrence that ends its piece cannot begin before another one that does. -/
theorem EndsOnly.eq_nil {token piece more rest rest' : List Char}
    (h : EndsOnly token (piece ++ more))
    (same : token ++ rest = more ++ (token ++ rest')) : more = [] := by
  have first : token <+: more ++ token := by
    refine List.prefix_of_prefix_length_le ⟨rest, same⟩
      ⟨rest', List.append_assoc more token rest'⟩ ?_
    rw [List.length_append]
    exact Nat.le_add_left _ _
  obtain ⟨after, both⟩ := first
  have none : after = [] := h piece after (by rw [List.append_assoc, both])
  rw [none, List.append_nil] at both
  exact List.self_eq_append_left.1 both

/-- **The first piece is determined** by the text. -/
theorem EndsOnly.unique {token piece piece' rest rest' : List Char} (h : EndsOnly token piece)
    (h' : EndsOnly token piece') (same : piece ++ (token ++ rest) = piece' ++ (token ++ rest')) :
    piece = piece' ∧ rest = rest' := by
  have first : piece = piece' := by
    rcases List.append_eq_append_iff.1 same with ⟨more, rfl, behind⟩ | ⟨more, rfl, behind⟩
    · rw [h'.eq_nil behind, List.append_nil]
    · rw [h.eq_nil behind, List.append_nil]
  rw [first] at same
  exact ⟨first, List.append_cancel_left (List.append_cancel_left same)⟩

namespace Factors

variable {token text first next : List Char} {more : List (List Char)}

theorem cut (h : Factors token text ⟨first, next :: more⟩) :
    EndsOnly token first ∧ Factors token (Pieces.join ⟨next, more⟩ token) ⟨next, more⟩ :=
  ⟨h.endsOnly first List.mem_cons_self,
    rfl, fun piece hp => h.endsOnly piece (List.mem_cons_of_mem _ hp), h.absent⟩

/-- A text with a cut holds the token. -/
theorem isInfix (h : Factors token text ⟨first, next :: more⟩) : token <:+: text := by
  rw [← h.join_eq, Pieces.join_cons]
  exact List.infix_append_of_infix_right List.infix_append_left

theorem eq_text (h : Factors token text ⟨first, []⟩) : first = text := by
  rw [← h.join_eq, Pieces.join_nil]

/-- **A text has one factoring at most.** -/
theorem unique {p q : Pieces} (h : Factors token text p) (h' : Factors token text q) : p = q := by
  obtain ⟨first, others⟩ := p
  obtain ⟨first', others'⟩ := q
  induction others generalizing text first first' others' with
  | nil =>
    cases others' with
    | nil => rw [h.eq_text, h'.eq_text]
    | cons => exact absurd h'.isInfix (h.eq_text ▸ h.absent first rfl)
  | cons next more ih =>
    cases others' with
    | nil => exact absurd h.isInfix (h'.eq_text ▸ h'.absent first' rfl)
    | cons next' more' =>
      -- the first pieces are the same, and then both factor the same rest
      have same := h.join_eq.trans h'.join_eq.symm
      rw [Pieces.join_cons, Pieces.join_cons] at same
      obtain ⟨rfl, rest⟩ := h.cut.1.unique h'.cut.1 same
      have others := ih next h.cut.2 next' more' (rest ▸ h'.cut.2)
      obtain ⟨rfl, rfl⟩ := Pieces.mk.inj others
      rfl

end Factors

theorem endsOnly_cons {token piece : List Char} {c : Char} (h : EndsOnly token piece)
    (none : ¬ token <+: c :: (piece ++ token)) : EndsOnly token (c :: piece) := by
  intro before after same
  cases before with
  | nil => exact absurd ⟨after, same.symm⟩ none
  | cons d before => exact h before after (List.cons.inj same).2

theorem endsOnly_of_mem_piecesAt {first : Char} {others text : List Char} :
    ∀ piece ∈ (piecesAt first others text).all.dropLast, EndsOnly (first :: others) piece := by
  fun_induction piecesAt first others text with
  | case1 => exact fun piece hp => (List.not_mem_nil hp).elim
  | case2 c rest found ih =>
    intro piece hp
    rw [Pieces.cut, Pieces.all, Pieces.all, List.dropLast_cons_cons] at hp
    rcases List.mem_cons.1 hp with rfl | hp
    · exact endsOnly_nil _
    · exact ih piece hp
  | case3 c rest other ih =>
    intro piece hp
    have parts := join_piecesAt first others rest
    generalize piecesAt first others rest = p at ih hp parts
    obtain ⟨piece', _ | ⟨next, more⟩⟩ := p
    · exact (List.not_mem_nil hp).elim
    · rw [Pieces.cons, Pieces.all, List.dropLast_cons_cons] at hp
      rcases List.mem_cons.1 hp with rfl | hp
      · refine endsOnly_cons (ih piece' List.mem_cons_self) ?_
        -- the text goes on with this piece and the token, so an occurrence here would be found
        intro begins
        obtain ⟨same, behind⟩ := List.cons_prefix_cons.1 begins
        rw [Pieces.join_cons, ← List.append_assoc] at parts
        exact other ⟨same.symm, behind.trans ⟨_, parts⟩⟩
      · exact ih piece (List.mem_cons_of_mem _ hp)

/-- **Replacing cuts the text at the first occurrence of what is left,** again and again. -/
theorem factors_piecesAt (first : Char) (others text : List Char) :
    Factors (first :: others) text (piecesAt first others text) where
  join_eq := join_piecesAt first others text
  endsOnly := endsOnly_of_mem_piecesAt
  absent := fun _ hp => not_infix_of_mem_piecesAt (List.mem_of_getLast? hp)

/-- The number of cuts between the pieces. -/
def Pieces.cuts (p : Pieces) : Nat :=
  p.others.length

theorem exists_factors {token : List Char} (h : token ≠ []) (text : List Char) :
    ∃ p, Factors token text p := by
  obtain ⟨first, others, rfl⟩ := List.exists_cons_of_ne_nil h
  exact ⟨piecesAt first others text, factors_piecesAt first others text⟩

/-! ## Counting -/

/-- Counts the occurrences of a token. The first `skipped` characters belong to one that is
counted. -/
def occurrencesFrom (token : List Char) : (skipped : Nat) → List Char → Nat
  | _, [] => 0
  | skipped + 1, _ :: rest => occurrencesFrom token skipped rest
  | 0, c :: rest =>
    if token <+: c :: rest then occurrencesFrom token (token.length - 1) rest + 1
    else occurrencesFrom token 0 rest

/-- The number of occurrences of a token that is not empty, taken from the left without overlap. -/
def occurrences (token text : List Char) : Nat :=
  occurrencesFrom token 0 text

theorem occurrencesFrom_eq_drop (token : List Char) (skipped : Nat) (text : List Char) :
    occurrencesFrom token skipped text = occurrences token (text.drop skipped) := by
  induction skipped generalizing text with
  | zero => rfl
  | succ skipped ih =>
    cases text with
    | nil => rfl
    | cons c rest => exact ih rest

theorem occurrences_eq_piecesAt (first : Char) (others text : List Char) :
    occurrences (first :: others) text = (piecesAt first others text).cuts := by
  fun_induction piecesAt first others text with
  | case1 => rfl
  | case2 c rest found ih =>
    have begins : first :: others <+: c :: rest := List.cons_prefix_cons.2 ⟨found.1.symm, found.2⟩
    rw [occurrences, occurrencesFrom, if_pos begins, occurrencesFrom_eq_drop, List.length_cons,
      Nat.add_sub_cancel, ih]
    rfl
  | case3 c rest other ih =>
    have none : ¬ first :: others <+: c :: rest := by
      rw [List.cons_prefix_cons]
      exact fun found => other ⟨found.1.symm, found.2⟩
    rw [occurrences, occurrencesFrom, if_neg none]
    exact ih

/-- **There are as many occurrences as cuts.** -/
theorem Factors.occurrences_eq {token text : List Char} {p : Pieces} (h : Factors token text p)
    (nonempty : token ≠ []) : occurrences token text = p.cuts := by
  obtain ⟨first, others, rfl⟩ := List.exists_cons_of_ne_nil nonempty
  rw [h.unique (factors_piecesAt first others text), occurrences_eq_piecesAt]

/-! ## Replacing -/

/-- The text before and behind the first occurrence of a token that is not empty. -/
def cutAtFirst? (token : List Char) : List Char → Option (List Char × List Char)
  | [] => none
  | c :: rest =>
    if token <+: c :: rest then some ([], rest.drop (token.length - 1))
    else (cutAtFirst? token rest).map (Prod.map (c :: ·) id)

theorem length_lt_of_cutAtFirst? {token text before behind : List Char}
    (h : cutAtFirst? token text = some (before, behind)) : behind.length < text.length := by
  induction text generalizing before with
  | nil => cases h
  | cons c rest ih =>
    rw [cutAtFirst?] at h
    split_ifs at h with begins
    · obtain ⟨rfl, rfl⟩ := Prod.mk.inj (Option.some.inj h)
      rw [List.length_drop, List.length_cons]
      omega
    · obtain ⟨⟨before', behind'⟩, found, same⟩ := Option.map_eq_some_iff.1 h
      obtain ⟨rfl, rfl⟩ := Prod.mk.inj same
      exact (ih found).trans (Nat.lt_succ_self _)

/-- The text with a value in the place of each occurrence of a token that is not empty: the first
occurrence is looked for, and then those in the text behind it. -/
def replaced (token value text : List Char) : List Char :=
  match _h : cutAtFirst? token text with
  | none => text
  | some (before, behind) => before ++ (value ++ replaced token value behind)
termination_by text.length
decreasing_by exact length_lt_of_cutAtFirst? _h

theorem replaced_of_none {token text : List Char} (h : cutAtFirst? token text = none)
    (value : List Char) : replaced token value text = text := by
  rw [replaced.eq_def]
  split
  · rfl
  · next found => simp [h] at found

theorem replaced_of_some {token text before behind : List Char}
    (h : cutAtFirst? token text = some (before, behind)) (value : List Char) :
    replaced token value text = before ++ (value ++ replaced token value behind) := by
  rw [replaced.eq_def]
  split
  · next found => simp [h] at found
  · next found =>
    obtain ⟨rfl, rfl⟩ := Prod.mk.inj (Option.some.inj (h.symm.trans found))
    rfl

theorem cutAtFirst?_of_absent {token text : List Char} (h : ¬ token <:+: text) :
    cutAtFirst? token text = none := by
  induction text with
  | nil => rfl
  | cons c rest ih =>
    have behind := ih fun found => h (List.infix_cons found)
    rw [cutAtFirst?, if_neg fun begins => h begins.isInfix, behind, Option.map_none]

theorem EndsOnly.tail {token piece : List Char} {c : Char} (h : EndsOnly token (c :: piece)) :
    EndsOnly token piece :=
  fun before after same => h (c :: before) after (congrArg (c :: ·) same)

/-- **A piece that holds the token at its end only is what the search finds.** -/
theorem EndsOnly.cutAtFirst? {token piece : List Char} (h : EndsOnly token piece)
    (nonempty : token ≠ []) (rest : List Char) :
    cutAtFirst? token (piece ++ (token ++ rest)) = some (piece, rest) := by
  induction piece with
  | nil =>
    obtain ⟨first, others, rfl⟩ := List.exists_cons_of_ne_nil nonempty
    rw [List.nil_append, List.cons_append, Deck.cutAtFirst?,
      if_pos (List.cons_prefix_cons.2 ⟨rfl, List.prefix_append others rest⟩), List.length_cons,
      Nat.add_sub_cancel, List.drop_left]
  | cons c piece ih =>
    have none : ¬ token <+: c :: (piece ++ (token ++ rest)) := by
      -- an occurrence here would begin before the one that ends the piece
      rintro ⟨rest', same⟩
      exact List.cons_ne_nil c piece (@EndsOnly.eq_nil token [] (c :: piece) rest' rest h same)
    rw [List.cons_append, Deck.cutAtFirst?, if_neg none, ih h.tail]
    rfl

/-- **Replacing puts the value at each cut.** -/
theorem Factors.replaced_eq {token text : List Char} {p : Pieces} (h : Factors token text p)
    (nonempty : token ≠ []) (value : List Char) : replaced token value text = p.join value := by
  obtain ⟨first, others⟩ := p
  induction others generalizing text first with
  | nil =>
    have absent : ¬ token <:+: text := h.eq_text ▸ h.absent first rfl
    rw [replaced_of_none (cutAtFirst?_of_absent absent), Pieces.join_nil, h.eq_text]
  | cons next more ih =>
    have found := h.cut.1.cutAtFirst? nonempty (Pieces.join ⟨next, more⟩ token)
    rw [← Pieces.join_cons, h.join_eq] at found
    rw [replaced_of_some found, Pieces.join_cons, ih next h.cut.2]

/-- **Replacing and counting at once** gives the same. -/
theorem Factors.replaceAll_eq {token text : List Char} {p : Pieces} (h : Factors token text p)
    (nonempty : token ≠ []) (value : List Char) :
    replaceAll token value text = (p.join value, p.cuts) := by
  obtain ⟨first, others, rfl⟩ := List.exists_cons_of_ne_nil nonempty
  rw [h.unique (factors_piecesAt first others text)]
  exact replaceToken_eq first others value text

/-! ## Lengths -/

theorem length_join (p : Pieces) (separator : List Char) :
    (p.join separator).length = (p.all.map List.length).sum + p.cuts * separator.length := by
  obtain ⟨first, others⟩ := p
  induction others generalizing first with
  | nil => simp [Pieces.all, Pieces.cuts]
  | cons next more ih =>
    have rest := ih next
    simp only [Pieces.all, Pieces.cuts, List.map_cons, List.sum_cons, List.length_cons] at rest ⊢
    rw [Pieces.join_cons, List.length_append, List.length_append, rest, Nat.add_one_mul]
    omega

/-- **Each cut changes the length by the difference of value and token.** -/
theorem Factors.length_join_value {token text : List Char} {p : Pieces} (h : Factors token text p)
    (value : List Char) : ((p.join value).length : Int) =
      text.length + p.cuts * ((value.length : Int) - token.length) := by
  rw [← h.join_eq, length_join, length_join]
  push_cast
  ring

/-! ## Steps -/

/-- A step of a substitution in two scans: the occurrences are counted, and replaced if there are
any. -/
def countThenReplace (s : List Char × Nat) (pair : List Char × List Char) : List Char × Nat :=
  let found := occurrences pair.1 s.1
  if found = 0 then s else (replaced pair.1 pair.2 s.1, s.2 + found)

theorem countThenReplace_eq {token : List Char} (h : token ≠ []) (value text : List Char)
    (count : Nat) : countThenReplace (text, count) (token, value) =
      ((replaceAll token value text).1, count + (replaceAll token value text).2) := by
  obtain ⟨p, factors⟩ := exists_factors h text
  have counted := factors.occurrences_eq h
  have shown := factors.replaced_eq h value
  have both := factors.replaceAll_eq h value
  by_cases none : p.cuts = 0
  · -- without a cut the only piece is the text
    have unchanged : p.join value = text := by
      obtain ⟨first, others⟩ := p
      obtain rfl := List.eq_nil_of_length_eq_zero none
      rw [Pieces.join_nil, factors.eq_text]
    simp [countThenReplace, counted, both, none, unchanged]
  · simp [countThenReplace, counted, shown, both, none]

/-- **A substitution is its steps in two scans, one after another.** -/
theorem foldl_countThenReplace {pairs : List (List Char × List Char)}
    (h : ∀ pair ∈ pairs, pair.1 ≠ []) (text : List Char) (count : Nat) :
    pairs.foldl countThenReplace (text, count) =
      ((substitute pairs text).1, count + (substitute pairs text).2) := by
  induction pairs generalizing text count with
  | nil => rfl
  | cons pair pairs ih =>
    obtain ⟨nonempty, others⟩ := List.forall_mem_cons.1 h
    rw [List.foldl_cons, countThenReplace_eq nonempty, ih others, substitute_cons, Nat.add_assoc]

/-- The factorings in a substitution: of the text, and then of what each step has left. -/
inductive Steps : List (List Char × List Char) → List Char → List Pieces → Prop
  | done (text : List Char) : Steps [] text []
  | step {token value text : List Char} {p : Pieces} {pairs : List (List Char × List Char)}
      {ps : List Pieces} (factors : Factors token text p) (rest : Steps pairs (p.join value) ps) :
      Steps ((token, value) :: pairs) text (p :: ps)

theorem exists_steps {pairs : List (List Char × List Char)} (h : ∀ pair ∈ pairs, pair.1 ≠ [])
    (text : List Char) : ∃ ps, Steps pairs text ps := by
  induction pairs generalizing text with
  | nil => exact ⟨[], .done text⟩
  | cons pair pairs ih =>
    obtain ⟨nonempty, others⟩ := List.forall_mem_cons.1 h
    obtain ⟨p, factors⟩ := exists_factors nonempty text
    obtain ⟨ps, rest⟩ := ih others (p.join pair.2)
    exact ⟨p :: ps, .step factors rest⟩

namespace Steps

variable {pairs : List (List Char × List Char)} {text : List Char} {ps : List Pieces}

theorem length_eq (run : Steps pairs text ps) : ps.length = pairs.length := by
  induction run with
  | done => rfl
  | step _ _ ih => exact congrArg (· + 1) ih

section

variable (h : ∀ pair ∈ pairs, pair.1 ≠ [])

include h

theorem factors_at (run : Steps pairs text ps) {i : Nat} {pair : List Char × List Char} {p : Pieces}
    (hi : pairs[i]? = some pair) (hp : ps[i]? = some p) :
    Factors pair.1 (substitute (pairs.take i) text).1 p := by
  induction run generalizing i with
  | done => cases hi
  | step factors rest ih =>
    obtain ⟨nonempty, others⟩ := List.forall_mem_cons.1 h
    cases i with
    | zero =>
      obtain rfl := Option.some.inj hi
      obtain rfl := Option.some.inj hp
      exact factors
    | succ i =>
      rw [List.take_succ_cons, substitute_cons, factors.replaceAll_eq nonempty]
      exact ih others hi hp

/-- **The count is the number of all cuts.** -/
theorem count_eq (run : Steps pairs text ps) :
    (substitute pairs text).2 = (ps.map Pieces.cuts).sum := by
  induction run with
  | done => rfl
  | step factors rest ih =>
    obtain ⟨nonempty, others⟩ := List.forall_mem_cons.1 h
    rw [substitute_cons, factors.replaceAll_eq nonempty, ih others, List.map_cons, List.sum_cons]

/-- **The length changes by the differences of value and token at all cuts.** -/
theorem length_substitute (run : Steps pairs text ps) :
    ((substitute pairs text).1.length : Int) = text.length +
      (ps.zipWith (fun p pair => p.cuts * ((pair.2.length : Int) - pair.1.length)) pairs).sum := by
  induction run with
  | done => simp
  | step factors rest ih =>
    obtain ⟨nonempty, others⟩ := List.forall_mem_cons.1 h
    rw [substitute_cons, factors.replaceAll_eq nonempty, ih others, factors.length_join_value,
      List.zipWith_cons_cons, List.sum_cons, add_assoc]

end

end Steps

theorem substitute_concat (pairs : List (List Char × List Char)) (token value text : List Char) :
    substitute (pairs ++ [(token, value)]) text =
      ((replaceAll token value (substitute pairs text).1).1,
        (substitute pairs text).2 + (replaceAll token value (substitute pairs text).1).2) := by
  induction pairs generalizing text with
  | nil => rw [List.nil_append, substitute_cons, substitute_nil, substitute_nil, Nat.add_comm]
  | cons pair pairs ih =>
    rw [List.cons_append, substitute_cons, ih, substitute_cons, Nat.add_assoc]

/-! ## Main result -/

/-- **Counting and replacing agree at each step of a substitution.** With tokens that are not empty
a substitution counts and replaces one token after another. Each step has one factoring of the text
that it is given; it puts its value at each cut, whatever the value holds, and adds the number of
cuts to the count. So the count is the number of all cuts, and each of them has changed the length
by the difference of the value and the token of its step. -/
theorem substitute_counted {pairs : List (List Char × List Char)} (h : ∀ pair ∈ pairs, pair.1 ≠ [])
    (text : List Char) :
    substitute pairs text = pairs.foldl countThenReplace (text, 0) ∧
    ∃ steps : List Pieces, steps.length = pairs.length ∧
      (∀ i token value p, pairs[i]? = some (token, value) → steps[i]? = some p →
        let before := substitute (pairs.take i) text
        (Factors token before.1 p ∧ ∀ q, Factors token before.1 q → q = p) ∧
          occurrences token before.1 = p.cuts ∧ replaced token value before.1 = p.join value ∧
          substitute (pairs.take (i + 1)) text = (p.join value, before.2 + p.cuts)) ∧
      (substitute pairs text).2 = (steps.map Pieces.cuts).sum ∧
      ((substitute pairs text).1.length : Int) = text.length +
        (steps.zipWith (fun p pair => p.cuts * ((pair.2.length : Int) - pair.1.length))
          pairs).sum := by
  obtain ⟨steps, run⟩ := exists_steps h text
  refine ⟨?_, steps, run.length_eq, ?_, run.count_eq h, run.length_substitute h⟩
  · rw [foldl_countThenReplace h, Nat.zero_add]
  · intro i token value p hi hp before
    have factors : Factors token before.1 p := run.factors_at h hi hp
    have nonempty : token ≠ [] := h (token, value) (List.mem_of_getElem? hi)
    refine ⟨⟨factors, fun q hq => hq.unique factors⟩, factors.occurrences_eq nonempty,
      factors.replaced_eq nonempty value, ?_⟩
    rw [List.take_add_one, hi, Option.toList_some, substitute_concat,
      factors.replaceAll_eq nonempty]

/-- A value that holds its own token is not searched, and a token that overlaps itself is taken from
the left. -/
theorem substitute_counted_nested :
    let pairs := [("aa".toList, "baab".toList), ("b".toList, "aa".toList)]
    (∀ pair ∈ pairs, pair.1 ≠ []) ∧ substitute pairs "aaa".toList = ("aaaaaaa".toList, 3) ∧
      ∃ p, Factors "aa".toList "aaa".toList p ∧ p.cuts = 1 ∧
        substitute (pairs.take 1) "aaa".toList = (p.join "baab".toList, 1) := by
  intro pairs
  have nonempty : ∀ pair ∈ pairs, pair.1 ≠ [] := by decide
  have result : substitute pairs "aaa".toList = ("aaaaaaa".toList, 3) := by decide +kernel
  obtain ⟨-, steps, length, each, -⟩ := substitute_counted nonempty "aaa".toList
  have first : 0 < steps.length := length ▸ Nat.succ_pos 1
  obtain ⟨⟨factors, -⟩, counted, -, after⟩ :=
    each 0 _ _ steps[0] rfl (List.getElem?_eq_getElem first)
  have one : steps[0].cuts = 1 := counted.symm
  rw [one] at after
  exact ⟨nonempty, result, steps[0], factors, one, after⟩

end SlideMerge.Deck

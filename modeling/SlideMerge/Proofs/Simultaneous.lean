import Mathlib.Data.List.Pairwise
import SlideMerge.Proofs.Substitution

/-!
# Substitution in one scan

Substitution replaces one token after another, each in the text that the one before has left. A scan
(`scan`) goes through the text once: where a token begins it puts the value and skips the token, and
elsewhere it copies a character.

**Theorem (`substitute_simultaneous`).** If no two tokens overlap, and no value overlaps a token
(`Separate`), substitution is the scan, and the order of the tokens does not matter.

The proof takes the first token off (`scan_cons`): to scan for all tokens is to scan for the first
one and then, in the text that is left, for the others. The two scans are followed side by side.

* Where the first token begins, the second scan passes over its value (`scan_append`).
* Where another token begins, the first scan passes over it, for it does not overlap the first
  token.
* Where none begins, none begins after the first scan either (`prefix_of_prefix_replaceAll`): an
  occurrence that is new would touch a value.
-/

namespace SlideMerge.Deck

/-! ## Scanning -/

/-- The first pair whose token a text begins with. -/
def starting? (pairs : List (List Char × List Char)) (text : List Char) :
    Option (List Char × List Char) :=
  pairs.find? fun pair => pair.1.isPrefixOf text

/-- Replaces tokens in one scan from the left, and counts them: where a token begins, its value is
put and the token is skipped, and elsewhere a character is copied. -/
def scan (pairs : List (List Char × List Char)) : List Char → List Char × Nat
  | [] => ([], 0)
  | c :: rest =>
    match starting? pairs (c :: rest) with
    | some (token, value) =>
      let (text, count) := scan pairs (rest.drop (token.length - 1))
      (value ++ text, count + 1)
    | none =>
      let (text, count) := scan pairs rest
      (c :: text, count)
termination_by text => text.length
decreasing_by all_goals simp only [List.length_cons, List.length_drop]; omega

/-- Tokens and values that stay apart: no token overlaps another one, and no value overlaps a
token. -/
structure Separate (pairs : List (List Char × List Char)) : Prop where
  ne_nil : ∀ pair ∈ pairs, pair.1 ≠ []
  tokens : pairs.Pairwise fun p q => NonOverlapping p.1 q.1
  values : ∀ p ∈ pairs, ∀ q ∈ pairs, NonOverlapping q.1 p.2

section Scan

variable {pairs : List (List Char × List Char)}

theorem starting?_eq_none {text : List Char} :
    starting? pairs text = none ↔ ∀ pair ∈ pairs, ¬ pair.1 <+: text := by
  simp [starting?, List.find?_eq_none]

theorem mem_of_starting? {text : List Char} {pair : List Char × List Char}
    (h : starting? pairs text = some pair) : pair ∈ pairs ∧ pair.1 <+: text := by
  have found := List.find?_some h
  exact ⟨List.mem_of_find?_eq_some h, List.isPrefixOf_iff_prefix.1 found⟩

theorem scan_of_none {c : Char} {rest : List Char} (h : starting? pairs (c :: rest) = none) :
    scan pairs (c :: rest) = (c :: (scan pairs rest).1, (scan pairs rest).2) := by
  rw [scan]
  simp only [h]

theorem scan_of_some {token value rest : List Char} (hne : token ≠ [])
    (h : starting? pairs (token ++ rest) = some (token, value)) :
    scan pairs (token ++ rest) = (value ++ (scan pairs rest).1, (scan pairs rest).2 + 1) := by
  cases token with
  | nil => exact absurd rfl hne
  | cons c others =>
    rw [List.cons_append] at h ⊢
    rw [scan]
    simp only [h, List.length_cons, Nat.add_sub_cancel, List.drop_left]

end Scan

/-! ## Texts that the tokens do not overlap -/

theorem NonOverlapping.symm {s t : List Char} (h : NonOverlapping s t) : NonOverlapping t s :=
  ⟨h.not_infix_right, h.not_infix_left, h.no_end_right, h.no_end_left⟩

theorem NonOverlapping.not_begins {token value u : List Char} (h : NonOverlapping token value)
    (hne : u ≠ []) (hu : u <:+ value) (rest : List Char) : ¬ token <+: u ++ rest := by
  intro begins
  rcases List.prefix_or_prefix_of_prefix begins (List.prefix_append u rest) with inside | across
  · exact h.not_infix_left (inside.isInfix.trans hu.isInfix)
  · exact h.no_end_right u hne hu across

/-- **A scan passes over a text that no token overlaps.** -/
theorem scan_append {pairs : List (List Char × List Char)} {value : List Char}
    (apart : ∀ pair ∈ pairs, NonOverlapping pair.1 value) (rest : List Char) :
    scan pairs (value ++ rest) = (value ++ (scan pairs rest).1, (scan pairs rest).2) := by
  -- the ends of the value are passed over one after another
  have passes : ∀ u, u <:+ value →
      scan pairs (u ++ rest) = (u ++ (scan pairs rest).1, (scan pairs rest).2) := by
    intro u hu
    induction u with
    | nil => rfl
    | cons c u ih =>
      have none : starting? pairs (c :: (u ++ rest)) = none := by
        rw [starting?_eq_none]
        intro pair hp
        exact (apart pair hp).not_begins (List.cons_ne_nil c u) hu rest
      rw [List.cons_append, scan_of_none none, ih ((List.suffix_cons c u).trans hu)]
      rfl
  exact passes value List.suffix_rfl

theorem scan_nil (text : List Char) : scan [] text = (text, 0) := by
  have passes := @scan_append [] text (by simp) []
  simpa [scan] using passes

theorem replaceAll_eq_scan {token : List Char} (hne : token ≠ []) (value text : List Char) :
    replaceAll token value text = scan [(token, value)] text := by
  cases token with
  | nil => exact absurd rfl hne
  | cons first others =>
    rw [replaceAll]
    fun_induction replaceToken first others value text with
    | case1 => rw [scan]
    | case2 c rest h text count hr ih =>
      obtain ⟨rfl, tail, rfl⟩ := h
      have begins : starting? [(c :: others, value)] (c :: others ++ tail) =
          some (c :: others, value) := by
        simp [starting?]
      rw [← List.cons_append, scan_of_some hne begins]
      rw [List.drop_left] at ih hr
      rw [← ih, hr]
    | case3 c rest h text count hr ih =>
      have none : starting? [(first :: others, value)] (c :: rest) = none := by
        rw [starting?_eq_none]
        simpa [List.cons_prefix_cons, eq_comm] using h
      rw [scan_of_none none, ← ih, hr]

/-- Replacing a token makes no text begin with `u` that has not begun with it before. -/
theorem prefix_of_prefix_replaceAll {token value u text : List Char} (hne : token ≠ [])
    (h : NonOverlapping u value) (hu : u <+: (replaceAll token value text).1) : u <+: text := by
  cases token with
  | nil => exact absurd rfl hne
  | cons first others =>
    rw [replaceAll, replaceToken_eq] at hu
    have joined := join_piecesAt first others text
    rcases hp : piecesAt first others text with ⟨piece, _ | ⟨next, more⟩⟩
    all_goals rw [hp] at hu joined
    · rw [Pieces.join_nil] at hu joined
      rwa [joined] at hu
    · rw [Pieces.join_cons] at hu joined
      -- `u` lies within the first piece, or the value begins inside it
      rcases List.prefix_or_prefix_of_prefix hu (List.prefix_append piece _) with within | ⟨v, rfl⟩
      · rw [← joined]
        exact within.trans (List.prefix_append piece _)
      · by_cases hv : v = []
        · rw [← joined, hv, List.append_nil]
          exact List.prefix_append piece _
        · rw [List.prefix_append_right_inj] at hu
          rcases List.prefix_or_prefix_of_prefix hu (List.prefix_append value _) with short | long
          · exact absurd short (h.no_end_left v hv (List.suffix_append piece v))
          · exact absurd (long.isInfix.trans List.infix_append_right) h.not_infix_right

/-! ## Separate tokens -/

namespace Separate

variable {pairs : List (List Char × List Char)}

theorem tail {pair : List Char × List Char} (h : Separate (pair :: pairs)) : Separate pairs where
  ne_nil := fun p hp => h.ne_nil p (List.mem_cons_of_mem _ hp)
  tokens := h.tokens.of_cons
  values := fun p hp q hq => h.values p (List.mem_cons_of_mem _ hp) q (List.mem_cons_of_mem _ hq)

theorem perm {other : List (List Char × List Char)} (h : Separate pairs) (hp : pairs.Perm other) :
    Separate other where
  ne_nil := fun p hm => h.ne_nil p (hp.mem_iff.2 hm)
  tokens := (hp.pairwise_iff fun hpq => hpq.symm).1 h.tokens
  values := fun p hm q hn => h.values p (hp.mem_iff.2 hm) q (hp.mem_iff.2 hn)

theorem eq_of_begins (h : Separate pairs) {text : List Char} {p q : List Char × List Char}
    (hp : p ∈ pairs) (hq : q ∈ pairs) (begins : p.1 <+: text) (begins' : q.1 <+: text) : p = q := by
  by_contra different
  have symmetric : Std.Symm fun p q : List Char × List Char => NonOverlapping p.1 q.1 :=
    ⟨fun _ _ hpq => hpq.symm⟩
  have apart : NonOverlapping p.1 q.1 := h.tokens.forall hp hq different
  rcases List.prefix_or_prefix_of_prefix begins begins' with inside | inside
  · exact apart.not_infix_left inside.isInfix
  · exact apart.not_infix_right inside.isInfix

/-- The pair whose token a text begins with is found, wherever it stands. -/
theorem starting?_eq_some (h : Separate pairs) {text : List Char} {pair : List Char × List Char} :
    starting? pairs text = some pair ↔ pair ∈ pairs ∧ pair.1 <+: text := by
  constructor
  · exact mem_of_starting?
  · rintro ⟨hm, begins⟩
    cases found : starting? pairs text with
    | none => exact absurd begins (starting?_eq_none.1 found pair hm)
    | some other =>
      obtain ⟨ho, begins'⟩ := mem_of_starting? found
      rw [h.eq_of_begins hm ho begins begins']

theorem scan_token (h : Separate pairs) {token value : List Char} (hm : (token, value) ∈ pairs)
    (rest : List Char) :
    scan pairs (token ++ rest) = (value ++ (scan pairs rest).1, (scan pairs rest).2 + 1) :=
  scan_of_some (h.ne_nil _ hm) (h.starting?_eq_some.2 ⟨hm, List.prefix_append token rest⟩)

/-- A text is empty, or begins with a token, or begins with a character that is copied. -/
theorem scan_induction (h : Separate pairs) {motive : List Char → Prop} (nil : motive [])
    (token : ∀ token value rest, (token, value) ∈ pairs → motive rest → motive (token ++ rest))
    (copy : ∀ c rest, starting? pairs (c :: rest) = none → motive rest → motive (c :: rest))
    (text : List Char) : motive text := by
  induction hn : text.length using Nat.strongRecOn generalizing text with
  | _ n ih =>
    cases text with
    | nil => exact nil
    | cons c rest =>
      cases found : starting? pairs (c :: rest) with
      | none => exact copy c rest found (ih rest.length (by simp [← hn]) rest rfl)
      | some pair =>
        obtain ⟨hm, tail, ht⟩ := mem_of_starting? found
        have shorter : tail.length < n := by
          have nonempty := List.length_pos_iff.2 (h.ne_nil pair hm)
          rw [← hn, ← ht, List.length_append]
          omega
        rw [← ht]
        exact token pair.1 pair.2 tail hm (ih tail.length shorter tail rfl)

section First

variable {token value : List Char} (h : Separate ((token, value) :: pairs))

include h

theorem replaceAll_first (rest : List Char) :
    replaceAll token value (token ++ rest) =
      (value ++ (replaceAll token value rest).1, (replaceAll token value rest).2 + 1) := by
  have hne : token ≠ [] := h.ne_nil _ List.mem_cons_self
  have begins : starting? [(token, value)] (token ++ rest) = some (token, value) := by
    simp [starting?]
  rw [replaceAll_eq_scan hne, scan_of_some hne begins, replaceAll_eq_scan hne]

theorem replaceAll_other {other : List Char × List Char} (ho : other ∈ pairs) (rest : List Char) :
    replaceAll token value (other.1 ++ rest) =
      (other.1 ++ (replaceAll token value rest).1, (replaceAll token value rest).2) := by
  have hne : token ≠ [] := h.ne_nil _ List.mem_cons_self
  have apart : NonOverlapping token other.1 := List.rel_of_pairwise_cons h.tokens ho
  rw [replaceAll_eq_scan hne, scan_append (by simpa using apart), replaceAll_eq_scan hne]

theorem replaceAll_copied {c : Char} {rest : List Char}
    (none : starting? ((token, value) :: pairs) (c :: rest) = none) :
    replaceAll token value (c :: rest) =
      (c :: (replaceAll token value rest).1, (replaceAll token value rest).2) := by
  have hne : token ≠ [] := h.ne_nil _ List.mem_cons_self
  have absent : starting? [(token, value)] (c :: rest) = .none := by
    rw [starting?_eq_none] at none ⊢
    simpa using none _ List.mem_cons_self
  rw [replaceAll_eq_scan hne, scan_of_none absent, replaceAll_eq_scan hne]

/-- Where no token begins, none of the others begins after the first has been replaced. -/
theorem starting?_replaceAll {c : Char} {rest : List Char}
    (none : starting? ((token, value) :: pairs) (c :: rest) = none) :
    starting? pairs (c :: (replaceAll token value rest).1) = .none := by
  rw [starting?_eq_none]
  intro pair hp begins
  have hm : pair ∈ (token, value) :: pairs := List.mem_cons_of_mem _ hp
  have before : pair.1 <+: c :: rest := by
    apply prefix_of_prefix_replaceAll (h.ne_nil _ List.mem_cons_self)
      (h.values _ List.mem_cons_self _ hm)
    rwa [h.replaceAll_copied none]
  exact starting?_eq_none.1 none pair hm before

/-- **A scan for all tokens is one for the first and then one for the others.** -/
theorem scan_cons (text : List Char) :
    scan ((token, value) :: pairs) text =
      ((scan pairs (replaceAll token value text).1).1,
        (replaceAll token value text).2 + (scan pairs (replaceAll token value text).1).2) := by
  induction text using h.scan_induction with
  | nil =>
    have hne : token ≠ [] := h.ne_nil _ List.mem_cons_self
    simp [replaceAll_eq_scan hne, scan]
  | token token' value' rest hm ih =>
    rw [h.scan_token hm, ih]
    rcases List.mem_cons.1 hm with first | other
    · obtain ⟨rfl, rfl⟩ := Prod.mk.inj first
      have apart : ∀ pair ∈ pairs, NonOverlapping pair.1 value' :=
        fun pair hp => h.values _ List.mem_cons_self _ (List.mem_cons_of_mem _ hp)
      rw [h.replaceAll_first, scan_append apart]
      simp only [Prod.mk.injEq, true_and]
      omega
    · rw [h.replaceAll_other other, h.tail.scan_token other]
      rfl
  | copy c rest none ih =>
    rw [scan_of_none none, h.replaceAll_copied none, scan_of_none (h.starting?_replaceAll none), ih]

end First

theorem substitute_eq_scan (h : Separate pairs) (text : List Char) :
    substitute pairs text = scan pairs text := by
  induction pairs generalizing text with
  | nil => rw [substitute_nil, scan_nil]
  | cons pair pairs ih => rw [substitute_cons, h.scan_cons, ih h.tail]

theorem scan_perm {other : List (List Char × List Char)} (h : Separate pairs)
    (hp : pairs.Perm other) (text : List Char) : scan other text = scan pairs text := by
  have same (text : List Char) : starting? other text = starting? pairs text := by
    refine Option.ext fun pair => ?_
    rw [(h.perm hp).starting?_eq_some, h.starting?_eq_some, hp.mem_iff]
  induction text using h.scan_induction with
  | nil => simp [scan]
  | token token value rest hm ih =>
    rw [h.scan_token hm, (h.perm hp).scan_token (hp.mem_iff.1 hm), ih]
  | copy c rest none ih =>
    rw [scan_of_none none, scan_of_none ((same (c :: rest)).trans none), ih]

end Separate

/-- **Substitution is simultaneous** where tokens and values stay apart: it is one scan of the text,
and the order of the tokens matters neither for the text nor for the count. -/
theorem substitute_simultaneous {pairs : List (List Char × List Char)} (h : Separate pairs)
    (text : List Char) :
    substitute pairs text = scan pairs text ∧
      ∀ other, pairs.Perm other → substitute other text = substitute pairs text := by
  refine ⟨h.substitute_eq_scan text, ?_⟩
  intro other hp
  rw [(h.perm hp).substitute_eq_scan, h.scan_perm hp, h.substitute_eq_scan]

/-- Tokens that overlap themselves, and a text in which their occurrences do. -/
theorem substitute_simultaneous_selfOverlapping :
    Separate [(['a', 'a'], ['x']), (['b', 'c', 'b'], ['y', 'c'])] ∧
      substitute [(['b', 'c', 'b'], ['y', 'c']), (['a', 'a'], ['x'])]
        ['a', 'a', 'a', 'b', 'c', 'b', 'c', 'b'] = (['x', 'a', 'y', 'c', 'c', 'b'], 2) := by
  have separate : Separate [(['a', 'a'], ['x']), (['b', 'c', 'b'], ['y', 'c'])] := by
    refine ⟨by decide, ?_, by decide⟩
    rw [List.pairwise_pair]
    decide
  have swapped : List.Perm [(['a', 'a'], ['x']), (['b', 'c', 'b'], ['y', 'c'])]
      [(['b', 'c', 'b'], ['y', 'c']), (['a', 'a'], ['x'])] := List.Perm.swap _ _ _
  refine ⟨separate, ?_⟩
  rw [(substitute_simultaneous separate _).2 _ swapped, (substitute_simultaneous separate _).1]
  decide +kernel

end SlideMerge.Deck

import Mathlib.Data.List.Infix
import SlideMerge.Deck.Substitution

/-!
# Occurrences of tokens after substitution

Replacing a token cuts the text at its occurrences, taken from the left, and puts a value at each
cut. **Pieces** (`piecesAt`) are what lies between the cuts. Joined with the token they are the text
again, joined with the value they are the replaced text, and no piece holds the token.

Where a value and a text `u` share no end (`NonOverlapping`), an occurrence of `u` in joined pieces
lies within one of them (`infix_join`). Two facts follow: replacing a token leaves no occurrence of
it, and it makes none of another token.

Main results: `not_infix_substitute`, that no token is left after a substitution, and
`substitute_of_absent`, that a substitution without occurrences changes nothing.
-/

namespace SlideMerge.Deck

/-! ## Pieces -/

/-- The pieces of a text: the one before the first cut, and one after each cut. -/
structure Pieces where
  first : List Char
  others : List (List Char)

namespace Pieces

/-- All pieces, in order. -/
def all (p : Pieces) : List (List Char) :=
  p.first :: p.others

/-- The pieces with one more character at the beginning. -/
def cons (c : Char) (p : Pieces) : Pieces :=
  ⟨c :: p.first, p.others⟩

/-- The pieces with a cut at the beginning. -/
def cut (p : Pieces) : Pieces :=
  ⟨[], p.all⟩

/-- The pieces with a separator at each cut. -/
def join (p : Pieces) (separator : List Char) : List Char :=
  p.first ++ p.others.flatMap (separator ++ ·)

@[simp] theorem join_nil (first separator : List Char) : join ⟨first, []⟩ separator = first := by
  simp [join]

@[simp] theorem join_cons (first next separator : List Char) (more : List (List Char)) :
    join ⟨first, next :: more⟩ separator = first ++ (separator ++ join ⟨next, more⟩ separator) := by
  simp [join]

theorem join_cons_char (c : Char) (p : Pieces) (separator : List Char) :
    (p.cons c).join separator = c :: p.join separator := rfl

theorem join_cut (p : Pieces) (separator : List Char) :
    p.cut.join separator = separator ++ p.join separator :=
  join_cons [] p.first separator p.others

theorem infix_join_of_mem {p : Pieces} {piece : List Char} (h : piece ∈ p.all)
    (separator : List Char) : piece <:+: p.join separator := by
  obtain ⟨first, others⟩ := p
  induction others generalizing first with
  | nil =>
    rw [List.mem_singleton.1 h, join_nil]
  | cons next more ih =>
    rw [join_cons]
    rcases List.mem_cons.1 h with rfl | h
    · exact List.infix_append_left
    · exact List.infix_append_of_infix_right (List.infix_append_of_infix_right (ih next h))

theorem mem_join {p : Pieces} {separator : List Char} {c : Char} (h : c ∈ p.join separator) :
    c ∈ separator ∨ ∃ piece ∈ p.all, c ∈ piece := by
  rw [join, List.mem_append, List.mem_flatMap] at h
  rcases h with h | ⟨piece, hp, h⟩
  · exact Or.inr ⟨p.first, List.mem_cons_self, h⟩
  · rcases List.mem_append.1 h with h | h
    · exact Or.inl h
    · exact Or.inr ⟨piece, List.mem_cons_of_mem _ hp, h⟩

end Pieces

/-- The pieces of a text at the occurrences of the token `first :: others`. -/
def piecesAt (first : Char) (others : List Char) : List Char → Pieces
  | [] => ⟨[], []⟩
  | c :: rest =>
    if c = first ∧ others <+: rest then (piecesAt first others (rest.drop others.length)).cut
    else (piecesAt first others rest).cons c
termination_by text => text.length
decreasing_by all_goals simp only [List.length_cons, List.length_drop]; omega

/-- **Replacing puts the value at each cut.** The occurrences are as many as the cuts. -/
theorem replaceToken_eq (first : Char) (others value text : List Char) :
    replaceToken first others value text =
      ((piecesAt first others text).join value, (piecesAt first others text).others.length) := by
  fun_induction piecesAt first others text with
  | case1 => rw [replaceToken, Pieces.join_nil, List.length_nil]
  | case2 c rest h ih =>
    rw [replaceToken, if_pos h, ih, Pieces.join_cut]
    rfl
  | case3 c rest h ih =>
    rw [replaceToken, if_neg h, ih, Pieces.join_cons_char]
    rfl

theorem join_piecesAt (first : Char) (others text : List Char) :
    (piecesAt first others text).join (first :: others) = text := by
  fun_induction piecesAt first others text with
  | case1 => rw [Pieces.join_nil]
  | case2 c rest h ih =>
    obtain ⟨rfl, tail, rfl⟩ := h
    rw [List.drop_left] at ih ⊢
    rw [Pieces.join_cut, ih, List.cons_append]
  | case3 c rest h ih => rw [Pieces.join_cons_char, ih]

theorem not_infix_of_mem_piecesAt {first : Char} {others text piece : List Char}
    (h : piece ∈ (piecesAt first others text).all) : ¬ first :: others <:+: piece := by
  fun_induction piecesAt first others text generalizing piece with
  | case1 =>
    rw [List.mem_singleton.1 h]
    exact fun hi => List.cons_ne_nil _ _ (List.infix_nil.1 hi)
  | case2 c rest hc ih =>
    rcases List.mem_cons.1 h with rfl | h
    · exact fun hi => List.cons_ne_nil _ _ (List.infix_nil.1 hi)
    · exact ih h
  | case3 c rest hc ih =>
    rcases List.mem_cons.1 h with rfl | h
    · intro hi
      rcases List.infix_cons_iff.1 hi with hp | hi
      · -- the piece begins the rest of the text, so the token would begin at `c`
        obtain ⟨rfl, ho⟩ := List.cons_prefix_cons.1 hp
        have hj := join_piecesAt first others rest
        exact hc ⟨rfl, ho.trans ⟨_, hj⟩⟩
      · exact ih List.mem_cons_self hi
    · exact ih (List.mem_cons_of_mem _ h)

/-! ## Occurrences across cuts -/

/-- Neither text holds the other, and no end of one is a beginning of the other. -/
structure NonOverlapping (s t : List Char) : Prop where
  not_infix_left : ¬ s <:+: t
  not_infix_right : ¬ t <:+: s
  no_end_left : ∀ u, u ≠ [] → u <:+ s → ¬ u <+: t
  no_end_right : ∀ u, u ≠ [] → u <:+ t → ¬ u <+: s

instance (s t : List Char) : Decidable (NonOverlapping s t) :=
  decidable_of_iff
    (¬ s <:+: t ∧ ¬ t <:+: s ∧ (∀ u ∈ s.tails, u ≠ [] → ¬ u <+: t) ∧
      ∀ u ∈ t.tails, u ≠ [] → ¬ u <+: s)
    ⟨fun ⟨h₁, h₂, h₃, h₄⟩ => ⟨h₁, h₂, fun u hu hs => h₃ u ((List.mem_tails u s).2 hs) hu,
        fun u hu ht => h₄ u ((List.mem_tails u t).2 ht) hu⟩,
      fun ⟨h₁, h₂, h₃, h₄⟩ => ⟨h₁, h₂, fun u hs hu => h₃ u hu ((List.mem_tails u s).1 hs),
        fun u ht hu => h₄ u hu ((List.mem_tails u t).1 ht)⟩⟩

theorem NonOverlapping.infix_append {u value s t : List Char} (h : NonOverlapping u value)
    (hi : u <:+: s ++ (value ++ t)) : u <:+: s ∨ u <:+: t := by
  rcases List.infix_append_iff_ne_nil.1 hi with hs | hvt | ⟨x, y, hx, hy, rfl, hxs, hyvt⟩
  · exact Or.inl hs
  · rcases List.infix_append_iff_ne_nil.1 hvt with hv | ht | ⟨x, y, hx, hy, rfl, hxv, -⟩
    · exact absurd hv h.not_infix_left
    · exact Or.inr ht
    · exact absurd (List.prefix_append x y) (h.no_end_right x hx hxv)
  · -- the end `y` of the occurrence begins where the value begins
    rcases List.prefix_or_prefix_of_prefix hyvt (List.prefix_append value t) with hv | hv
    · exact absurd hv (h.no_end_left y hy (List.suffix_append x y))
    · exact absurd (hv.isInfix.trans List.infix_append_right) h.not_infix_right

/-- **An occurrence in joined pieces lies within one of them,** unless it overlaps the value. -/
theorem NonOverlapping.infix_join {u value : List Char} (h : NonOverlapping u value) {p : Pieces}
    (hi : u <:+: p.join value) : ∃ piece ∈ p.all, u <:+: piece := by
  obtain ⟨first, others⟩ := p
  induction others generalizing first with
  | nil => exact ⟨first, List.mem_cons_self, by rwa [Pieces.join_nil] at hi⟩
  | cons next more ih =>
    rw [Pieces.join_cons] at hi
    rcases h.infix_append hi with hi | hi
    · exact ⟨first, List.mem_cons_self, hi⟩
    · obtain ⟨piece, hp, hi⟩ := ih next hi
      exact ⟨piece, List.mem_cons_of_mem _ hp, hi⟩

/-! ## One token -/

/-- Replacing a token whose value does not overlap it leaves no occurrence. -/
theorem not_infix_replaceAll_self {token value : List Char} (hne : token ≠ [])
    (h : NonOverlapping token value) (text : List Char) :
    ¬ token <:+: (replaceAll token value text).1 := by
  cases token with
  | nil => exact absurd rfl hne
  | cons first others =>
    rw [replaceAll, replaceToken_eq]
    intro hi
    obtain ⟨piece, hp, hi⟩ := h.infix_join hi
    exact not_infix_of_mem_piecesAt hp hi

/-- Replacing a token makes no occurrence of a text that does not overlap the value. -/
theorem not_infix_replaceAll {token value u text : List Char} (hne : token ≠ [])
    (h : NonOverlapping u value) (hu : ¬ u <:+: text) :
    ¬ u <:+: (replaceAll token value text).1 := by
  cases token with
  | nil => exact absurd rfl hne
  | cons first others =>
    rw [replaceAll, replaceToken_eq]
    intro hi
    obtain ⟨piece, hp, hi⟩ := h.infix_join hi
    rw [← join_piecesAt first others text] at hu
    exact hu (hi.trans (Pieces.infix_join_of_mem hp _))

theorem replaceAll_of_absent {token text : List Char} (hne : token ≠ []) (h : ¬ token <:+: text)
    (value : List Char) : replaceAll token value text = (text, 0) := by
  cases token with
  | nil => exact absurd rfl hne
  | cons first others =>
    rw [replaceAll, replaceToken_eq]
    rcases hp : piecesAt first others text with ⟨piece, _ | ⟨next, more⟩⟩
    all_goals
      have hj := join_piecesAt first others text
      rw [hp] at hj
    · rw [Pieces.join_nil] at hj
      rw [Pieces.join_nil, hj, List.length_nil]
    · rw [Pieces.join_cons] at hj
      exact absurd ⟨piece, _, by rw [← hj, List.append_assoc]⟩ h

theorem mem_interleave {value text : List Char} {c : Char} (h : c ∈ interleave value text) :
    c ∈ value ∨ c ∈ text := by
  induction text with
  | nil => exact Or.inl h
  | cons d rest ih =>
    rw [interleave, List.mem_append, List.mem_cons] at h
    rcases h with h | rfl | h
    · exact Or.inl h
    · exact Or.inr List.mem_cons_self
    · exact (ih h).imp_right (List.mem_cons_of_mem d)

/-- A character of a text with a token replaced is one of the value or of the text. -/
theorem mem_replaceAll {token value text : List Char} {c : Char}
    (h : c ∈ (replaceAll token value text).1) : c ∈ value ∨ c ∈ text := by
  cases token with
  | nil => exact mem_interleave h
  | cons first others =>
    rw [replaceAll, replaceToken_eq] at h
    refine (Pieces.mem_join h).imp_right ?_
    rintro ⟨piece, hp, hc⟩
    have part := Pieces.infix_join_of_mem hp (first :: others)
    rw [join_piecesAt] at part
    exact part.subset hc

/-! ## All tokens -/

theorem substitute_cons (token value text : List Char) (rest : List (List Char × List Char)) :
    substitute ((token, value) :: rest) text =
      ((substitute rest (replaceAll token value text).1).1,
        (replaceAll token value text).2 +
          (substitute rest (replaceAll token value text).1).2) := rfl

/-- A character of a text with all tokens replaced is one of a value or of the text. -/
theorem mem_substitute {pairs : List (List Char × List Char)} {text : List Char} {c : Char}
    (h : c ∈ (substitute pairs text).1) : (∃ pair ∈ pairs, c ∈ pair.2) ∨ c ∈ text := by
  induction pairs generalizing text with
  | nil => exact Or.inr h
  | cons pair rest ih =>
    rcases ih h with ⟨other, ho, hc⟩ | hc
    · exact Or.inl ⟨other, List.mem_cons_of_mem _ ho, hc⟩
    · exact (mem_replaceAll hc).imp_left fun hv => ⟨pair, List.mem_cons_self, hv⟩

theorem substitute_of_absent {pairs : List (List Char × List Char)} {text : List Char}
    (h : ∀ pair ∈ pairs, pair.1 ≠ [] ∧ ¬ pair.1 <:+: text) : substitute pairs text = (text, 0) := by
  induction pairs with
  | nil => rfl
  | cons pair rest ih =>
    obtain ⟨token, value⟩ := pair
    obtain ⟨hne, habs⟩ := h _ List.mem_cons_self
    rw [substitute_cons, replaceAll_of_absent hne habs,
      ih fun pair hp => h pair (List.mem_cons_of_mem _ hp), Nat.add_zero]

/-- **No token is left.** A text is absent after a substitution if it was absent before or is one of
the tokens, and overlaps none of the values. -/
theorem not_infix_substitute {pairs : List (List Char × List Char)} {u text : List Char}
    (hne : ∀ pair ∈ pairs, pair.1 ≠ []) (hv : ∀ pair ∈ pairs, NonOverlapping u pair.2)
    (hu : u ∈ pairs.map Prod.fst ∨ ¬ u <:+: text) : ¬ u <:+: (substitute pairs text).1 := by
  induction pairs generalizing text with
  | nil => simpa using hu
  | cons pair rest ih =>
    obtain ⟨token, value⟩ := pair
    have htoken : token ≠ [] := hne _ List.mem_cons_self
    have hvalue : NonOverlapping u value := hv _ List.mem_cons_self
    refine ih (fun pair hp => hne pair (List.mem_cons_of_mem _ hp))
      (fun pair hp => hv pair (List.mem_cons_of_mem _ hp)) ?_
    rcases hu with hu | hu
    · rcases List.mem_cons.1 hu with rfl | hu
      · exact Or.inr (not_infix_replaceAll_self htoken hvalue text)
      · exact Or.inl hu
    · exact Or.inr (not_infix_replaceAll htoken hvalue hu)

end SlideMerge.Deck

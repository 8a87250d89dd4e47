import SlideMerge.Keyed

/-!
# Substituting tokens

Replacing a token puts a value in the place of its occurrences, taken from the left without
overlap, and counts them. Substitution replaces several tokens one after another, each in the text
that the one before has left, so a value that holds a later token has that one replaced too.
-/

namespace SlideMerge.Deck

/-- Puts a value before every character and at the end; the flag of an empty token's occurrences. -/
def interleave (value : List Char) : List Char → List Char
  | [] => value
  | c :: rest => value ++ c :: interleave value rest

/-- Replaces the occurrences of the token `first :: others`, and counts them. -/
def replaceToken (first : Char) (others value : List Char) : List Char → List Char × Nat
  | [] => ([], 0)
  | c :: rest =>
    if c = first ∧ others <+: rest then
      let (text, count) := replaceToken first others value (rest.drop others.length)
      (value ++ text, count + 1)
    else
      let (text, count) := replaceToken first others value rest
      (c :: text, count)
termination_by text => text.length
decreasing_by all_goals simp only [List.length_cons, List.length_drop]; omega

/-- Replaces the occurrences of a token, and counts them. The empty token occurs before every
character and at the end. -/
def replaceAll (token value text : List Char) : List Char × Nat :=
  match token with
  | [] => (interleave value text, text.length + 1)
  | first :: others => replaceToken first others value text

/-- Replaces tokens one after another, and counts all occurrences. -/
def substitute : List (List Char × List Char) → List Char → List Char × Nat
  | [], text => (text, 0)
  | (token, value) :: rest, text =>
    let (text, count) := replaceAll token value text
    let (text, others) := substitute rest text
    (text, count + others)

@[simp] theorem substitute_nil (text : List Char) : substitute [] text = (text, 0) := rfl

end SlideMerge.Deck

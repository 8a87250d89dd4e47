import SlideMerge.Proofs.Markup

/-!
# Escaping loses nothing

Escaping names the reserved characters of a text by entities. Reading the entities back
(`unescapeMarkup`) goes through the text once, from left to right, and never looks again at what it
has read.

**Entities are a prefix code.** Each of them begins with an ampersand and none begins another one,
so at the place of an entity just this one is read (`readEntity?_append`), and nothing is read at
the place of any other character (`readEntity?_of_ne`). What escaping makes of a character is thus
read as that character, whatever is behind it (`unescapeMarkup_escapeChar`), and so the whole text
comes back.

Main result: `escapeMarkup_exact`.
-/

namespace SlideMerge.Text

/-! ## Reading entities -/

/-- The character of the entity that the text begins with, and the text behind this entity. -/
def readEntity? (text : List Char) : Option (Char × List Char) :=
  (entities.find? fun e => e.2.isPrefixOf text).map fun e => (e.1, text.drop e.2.length)

theorem entities_ampersand : ∀ e ∈ entities, e.2.head? = some '&' := by decide

theorem entities_prefixFree : ∀ e ∈ entities, ∀ e' ∈ entities, e.2 <+: e'.2 → e = e' := by decide

/-- **At the place of an entity just this one is read.** -/
theorem readEntity?_append {e : Char × List Char} (he : e ∈ entities) (rest : List Char) :
    readEntity? (e.2 ++ rest) = some (e.1, rest) := by
  have entity : e.2 <+: e.2 ++ rest := List.prefix_append e.2 rest
  have isSome : (entities.find? fun e' => e'.2.isPrefixOf (e.2 ++ rest)).isSome :=
    List.find?_isSome.2 ⟨e, he, List.isPrefixOf_iff_prefix.2 entity⟩
  obtain ⟨e', found⟩ := Option.isSome_iff_exists.1 isSome
  have he' : e' ∈ entities := List.mem_of_find?_eq_some found
  have begins : e'.2 <+: e.2 ++ rest := by
    have holds := List.find?_some found
    exact List.isPrefixOf_iff_prefix.1 holds
  have same : e' = e := by
    rcases List.prefix_or_prefix_of_prefix begins entity with shorter | longer
    · exact entities_prefixFree e' he' e he shorter
    · exact (entities_prefixFree e he e' he' longer).symm
  rw [readEntity?, found, same, Option.map_some, List.drop_left]

theorem readEntity?_of_ne {c : Char} (h : c ≠ '&') (rest : List Char) :
    readEntity? (c :: rest) = none := by
  rw [readEntity?, Option.map_eq_none_iff, List.find?_eq_none]
  intro e he begins
  obtain ⟨behind, hb⟩ := List.isPrefixOf_iff_prefix.1 begins
  have first := entities_ampersand e he
  cases entity : e.2 with
  | nil =>
    rw [entity] at first
    cases first
  | cons d name =>
    rw [entity] at first hb
    obtain rfl := Option.some.inj first
    exact h (List.cons.inj hb).1.symm

theorem length_of_readEntity? {text behind : List Char} {c : Char}
    (h : readEntity? text = some (c, behind)) : behind.length < text.length := by
  rw [readEntity?, Option.map_eq_some_iff] at h
  obtain ⟨e, found, pair⟩ := h
  obtain ⟨-, rfl⟩ := Prod.mk.inj pair
  have begins := List.find?_some found
  have fits := (List.isPrefixOf_iff_prefix.1 begins).length_le
  have nonempty : 0 < e.2.length := by
    have first := entities_ampersand e (List.mem_of_find?_eq_some found)
    exact List.length_pos_of_mem (List.mem_of_mem_head? first)
  rw [List.length_drop]
  omega

/-! ## Unescaping -/

/-- The text with its entities read as the characters that they name, in one pass from left to
right. -/
def unescapeMarkup : List Char → List Char
  | [] => []
  | c :: rest =>
    match _h : readEntity? (c :: rest) with
    | some (d, behind) => d :: unescapeMarkup behind
    | none => c :: unescapeMarkup rest
termination_by text => text.length
decreasing_by
  · exact length_of_readEntity? _h
  · exact Nat.lt_succ_self _

theorem unescapeMarkup_of_readEntity? {text behind : List Char} {c : Char}
    (h : readEntity? text = some (c, behind)) :
    unescapeMarkup text = c :: unescapeMarkup behind := by
  cases text with
  | nil => exact absurd (length_of_readEntity? h) (Nat.not_lt_zero _)
  | cons d rest =>
    rw [unescapeMarkup]
    split
    · next d' behind' h' =>
      obtain ⟨rfl, rfl⟩ := Prod.mk.inj (Option.some.inj (h'.symm.trans h))
      rfl
    · next h' => cases h'.symm.trans h

theorem unescapeMarkup_of_ne {c : Char} (h : c ≠ '&') (rest : List Char) :
    unescapeMarkup (c :: rest) = c :: unescapeMarkup rest := by
  rw [unescapeMarkup]
  split
  · next h' => cases h'.symm.trans (readEntity?_of_ne h rest)
  · rfl

/-- **What escaping makes of a character is read as that character.** -/
theorem unescapeMarkup_escapeChar (c : Char) (rest : List Char) :
    unescapeMarkup (escapeChar c ++ rest) = c :: unescapeMarkup rest := by
  by_cases h : c ∈ reserved
  · obtain ⟨e, he, rfl⟩ := List.mem_map.1 h
    rw [escapeChar_of_mem_entities e he]
    exact unescapeMarkup_of_readEntity? (readEntity?_append he rest)
  · have plain : c ≠ '&' := by
      rintro rfl
      exact h (by decide)
    rw [escapeChar_of_not_mem_reserved h]
    exact unescapeMarkup_of_ne plain rest

theorem unescapeMarkup_escapeMarkup (text : List Char) :
    unescapeMarkup (escapeMarkup text) = text := by
  rw [escapeMarkup_eq_flatMap]
  induction text with
  | nil => rw [List.flatMap_nil, unescapeMarkup]
  | cons c rest ih => rw [List.flatMap_cons, unescapeMarkup_escapeChar, ih]

/-! ## Entities of the text -/

/-- An entity that the text has already stays as text, with its ampersand named. -/
theorem escapeMarkup_entity :
    ∀ name ∈ entityNames, escapeMarkup ('&' :: (name ++ [';'])) =
      "&amp;".toList ++ (name ++ [';']) := by
  decide

/-- **Escaping is exact.** Replacing one reserved character after another, the ampersand first, is
mapping each character once: a reserved character to its entity and any other to itself, and so it
goes piece by piece. The result has no delimiter, and each ampersand in it begins an entity. Reading
the entities in one pass gives the text back, so no two texts are escaped alike, and an entity that
stood in the text is escaped as the text that it is. -/
theorem escapeMarkup_exact :
    (∀ text, escapeMarkup text = text.flatMap escapeChar) ∧
    ((∀ e ∈ entities, escapeChar e.1 = e.2) ∧
      ∀ c, c ∉ ['&', '<', '>', '"', '\''] → escapeChar c = [c]) ∧
    (∀ s t, escapeMarkup (s ++ t) = escapeMarkup s ++ escapeMarkup t) ∧
    (∀ text, ∀ c ∈ ['<', '>', '"', '\''], c ∉ escapeMarkup text) ∧
    (∀ text before rest, escapeMarkup text = before ++ '&' :: rest →
      ∃ name ∈ entityNames, name ++ [';'] <+: rest) ∧
    (∀ text, unescapeMarkup (escapeMarkup text) = text) ∧
    Function.Injective escapeMarkup ∧
    ∀ before after, ∀ name ∈ entityNames,
      escapeMarkup (before ++ ('&' :: (name ++ [';'])) ++ after) =
        escapeMarkup before ++ ("&amp;".toList ++ (name ++ [';'])) ++ escapeMarkup after := by
  refine ⟨escapeMarkup_eq_flatMap, ⟨escapeChar_of_mem_entities, ?_⟩, escapeMarkup_append, ?_, ?_,
    unescapeMarkup_escapeMarkup, ?_, ?_⟩
  · intro c hc
    have order : reserved.Perm ['&', '<', '>', '"', '\''] := (List.Perm.swap '<' '>' _).cons '&'
    exact escapeChar_of_not_mem_reserved fun h => hc (order.mem_iff.1 h)
  · intro text c hc member
    have free := delimiters_escapeMarkup text
    rw [delimiters, List.filter_eq_nil_iff] at free
    exact free c member (decide_eq_true hc)
  · intro text before rest h
    have named := ampersandsNamed_escapeMarkup text
    rw [h] at named
    exact named.of_append_right.1 rfl
  · exact Function.LeftInverse.injective unescapeMarkup_escapeMarkup
  · intro before after name hn
    rw [escapeMarkup_append, escapeMarkup_append, escapeMarkup_entity name hn]

/-- An element with an entity in it is escaped as text and read back. -/
theorem escapeMarkup_exact_element :
    escapeMarkup "<b>&amp;</b>".toList = "&lt;b&gt;&amp;amp;&lt;/b&gt;".toList ∧
      unescapeMarkup "&lt;b&gt;&amp;amp;&lt;/b&gt;".toList = "<b>&amp;</b>".toList := by
  obtain ⟨-, -, -, -, -, back, -, entity⟩ := escapeMarkup_exact
  have escaped : escapeMarkup "<b>&amp;</b>".toList = "&lt;b&gt;&amp;amp;&lt;/b&gt;".toList := by
    have parts := entity "<b>".toList "</b>".toList "amp".toList (by decide)
    have start : escapeMarkup "<b>".toList = "&lt;b&gt;".toList := by decide
    have stop : escapeMarkup "</b>".toList = "&lt;/b&gt;".toList := by decide
    rw [start, stop] at parts
    exact parts
  refine ⟨escaped, ?_⟩
  rw [← escaped]
  exact back _

end SlideMerge.Text

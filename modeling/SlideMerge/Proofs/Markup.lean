import SlideMerge.Deck.Fill
import SlideMerge.Mapping.Registry
import SlideMerge.Proofs.Substitution

/-!
# Markup survives substitution

Texts of a workbook are put into markup with their reserved characters named by entities. This
module shows that they cannot change the markup, whatever they are.

**Escaping** replaces one kind of character after another. No entity has a character that is
replaced after it, so it is the same to go through the text once and replace each reserved character
by its entity (`foldl_replaceChar_eq_flatMap`).

**The invariant** is `AmpersandsNamed`: each ampersand of the text begins an entity. A plain token
(`PlainToken`) has no character of markup and is no part of an entity's name. So where it occurs in
such a text it occurs outside the entities, the pieces around it are such texts as well, and with
escaped values between them they still are. As the result has the same form as the text before, the
argument repeats token after token, even where a token occurs in a value written before.

Main result: `markup_substitute`.
-/

namespace SlideMerge.Text

/-! ## Escaping, one character at a time -/

def entityNames : List (List Char) :=
  [['a', 'm', 'p'], ['g', 't'], ['l', 't'], ['q', 'u', 'o', 't'], ['a', 'p', 'o', 's']]

def reserved : List Char :=
  entities.map Prod.fst

def escapeChar (c : Char) : List Char :=
  (entities.lookup c).getD [c]

/-- A character that the table does not name stays as it is. -/
theorem lookup_getD_of_forall_ne {table : List (Char × List Char)} {c : Char}
    (h : ∀ e ∈ table, c ≠ e.1) : (table.lookup c).getD [c] = [c] := by
  rw [List.lookup_eq_none_iff.2, Option.getD_none]
  intro e he
  exact bne_iff_ne.2 (h e he)

/-- **Replacing one after another is replacing at once**, when no entry writes the character of a
later one. -/
theorem foldl_replaceChar_eq_flatMap {table : List (Char × List Char)}
    (later : table.Pairwise fun e e' => e'.1 ∉ e.2) (text : List Char) :
    table.foldl (fun text (c, value) => replaceChar c value text) text =
      text.flatMap fun c => (table.lookup c).getD [c] := by
  induction table generalizing text with
  | nil => exact (List.flatMap_singleton' text).symm
  | cons e rest ih =>
    obtain ⟨k, value⟩ := e
    obtain ⟨fresh, later⟩ := List.pairwise_cons.1 later
    rw [List.foldl_cons, ih later]
    show (text.flatMap fun d => if d = k then value else [d]).flatMap _ = _
    rw [List.flatMap_assoc]
    refine List.flatMap_congr fun c _ => ?_
    by_cases hc : c = k
    · -- What this entry writes goes through the later ones unchanged.
      have stays : ∀ d ∈ value, (rest.lookup d).getD [d] = [d] := by
        intro d hd
        refine lookup_getD_of_forall_ne fun e' he' => ?_
        rintro rfl
        exact fresh e' he' hd
      rw [if_pos hc, List.lookup_cons, hc, beq_self_eq_true]
      exact (List.flatMap_congr stays).trans (List.flatMap_singleton' value)
    · rw [if_neg hc, List.flatMap_singleton, List.lookup_cons, beq_eq_false_iff_ne.2 hc]

/-- **Escaping goes character by character.** -/
theorem escapeMarkup_eq_flatMap (text : List Char) :
    escapeMarkup text = text.flatMap escapeChar :=
  foldl_replaceChar_eq_flatMap (by decide) text

theorem escapeMarkup_append (s t : List Char) :
    escapeMarkup (s ++ t) = escapeMarkup s ++ escapeMarkup t := by
  simp only [escapeMarkup_eq_flatMap, List.flatMap_append]

theorem escapeChar_of_mem_entities : ∀ e ∈ entities, escapeChar e.1 = e.2 := by decide

theorem escapeChar_of_not_mem_reserved {c : Char} (h : c ∉ reserved) : escapeChar c = [c] := by
  refine lookup_getD_of_forall_ne fun e he => ?_
  rintro rfl
  exact h (List.mem_map_of_mem he)

theorem escapeChar_cases (c : Char) :
    (∃ name ∈ entityNames, escapeChar c = '&' :: (name ++ [';'])) ∨
      escapeChar c = [c] ∧ c ∉ reserved := by
  by_cases h : c ∈ reserved
  · left
    simp only [reserved, entities, List.map_cons, List.map_nil, List.mem_cons, List.not_mem_nil,
      or_false] at h
    rcases h with rfl | rfl | rfl | rfl | rfl <;> decide
  · exact Or.inr ⟨escapeChar_of_not_mem_reserved h, h⟩

theorem ascii_entity :
    ∀ name ∈ entityNames, ('&' :: (name ++ [';'])).all fun c => c.toNat < 128 := by decide

theorem mem_escapeMarkup {text : List Char} {c : Char} (h : c ∈ escapeMarkup text) :
    c.toNat < 128 ∨ c ∈ text := by
  rw [escapeMarkup_eq_flatMap] at h
  obtain ⟨d, hd, hc⟩ := List.mem_flatMap.1 h
  rcases escapeChar_cases d with ⟨name, hn, he⟩ | ⟨he, -⟩
  · rw [he] at hc
    exact Or.inl (of_decide_eq_true (List.all_eq_true.1 (ascii_entity name hn) c hc))
  · rw [he, List.mem_singleton] at hc
    exact Or.inr (hc ▸ hd)

/-! ## Delimiters and ampersands -/

/-- The characters that delimit elements and attributes in markup. -/
def delimiters (text : List Char) : List Char :=
  text.filter (· ∈ ['<', '>', '"', '\''])

/-- Each ampersand begins one of the entities. -/
def AmpersandsNamed : List Char → Prop
  | [] => True
  | c :: rest =>
    (c = '&' → ∃ name ∈ entityNames, name ++ [';'] <+: rest) ∧ AmpersandsNamed rest

instance decidableAmpersandsNamed : DecidablePred AmpersandsNamed
  | [] => isTrue trivial
  | c :: rest =>
    have := decidableAmpersandsNamed rest
    inferInstanceAs (Decidable
      ((c = '&' → ∃ name ∈ entityNames, name ++ [';'] <+: rest) ∧ AmpersandsNamed rest))

@[simp] theorem delimiters_append (s t : List Char) :
    delimiters (s ++ t) = delimiters s ++ delimiters t :=
  List.filter_append ..

theorem AmpersandsNamed.append {s t : List Char} (hs : AmpersandsNamed s)
    (ht : AmpersandsNamed t) : AmpersandsNamed (s ++ t) := by
  induction s with
  | nil => exact ht
  | cons c rest ih =>
    refine ⟨fun hc => ?_, ih hs.2⟩
    obtain ⟨name, hn, hp⟩ := hs.1 hc
    exact ⟨name, hn, List.prefix_append_of_prefix hp⟩

theorem AmpersandsNamed.of_append_right {s t : List Char} (h : AmpersandsNamed (s ++ t)) :
    AmpersandsNamed t := by
  induction s with
  | nil => exact h
  | cons c rest ih => exact ih h.2

theorem delimiters_entity :
    ∀ name ∈ entityNames, delimiters ('&' :: (name ++ [';'])) = [] := by decide

theorem ampersandsNamed_entity :
    ∀ name ∈ entityNames, AmpersandsNamed ('&' :: (name ++ [';'])) := by decide

theorem delimiters_escapeMarkup (text : List Char) : delimiters (escapeMarkup text) = [] := by
  rw [escapeMarkup_eq_flatMap]
  induction text with
  | nil => rfl
  | cons c rest ih =>
    rw [List.flatMap_cons, delimiters_append, ih, List.append_nil]
    rcases escapeChar_cases c with ⟨name, hn, he⟩ | ⟨he, hc⟩
    · rw [he, delimiters_entity name hn]
    · rw [he, delimiters, List.filter_eq_nil_iff]
      intro d hd
      rw [List.mem_singleton.1 hd, decide_eq_true_eq]
      intro hm
      refine hc ?_
      simp only [List.mem_cons, List.not_mem_nil, or_false] at hm
      rcases hm with rfl | rfl | rfl | rfl <;> decide

theorem ampersandsNamed_escapeMarkup (text : List Char) : AmpersandsNamed (escapeMarkup text) := by
  rw [escapeMarkup_eq_flatMap]
  induction text with
  | nil => trivial
  | cons c rest ih =>
    rw [List.flatMap_cons]
    refine AmpersandsNamed.append ?_ ih
    rcases escapeChar_cases c with ⟨name, hn, he⟩ | ⟨he, hc⟩
    · rw [he]
      exact ampersandsNamed_entity name hn
    · rw [he]
      refine ⟨fun h => absurd ?_ hc, trivial⟩
      rw [h]
      decide

end SlideMerge.Text

namespace SlideMerge.Deck

open Text Mapping

/-! ## Plain tokens -/

/-- A token without characters of markup that is no part of an entity's name. -/
structure PlainToken (token : List Char) : Prop where
  ne_nil : token ≠ []
  not_mem : ∀ c ∈ ['&', '<', '>', '"', '\'', ';'], c ∉ token
  not_infix_name : ∀ name ∈ entityNames, ¬ token <:+: name

/-- The characters of markup are gone through one by one, and not all characters. -/
instance (token : List Char) : Decidable (PlainToken token) :=
  decidable_of_iff
    (token ≠ [] ∧ (['&', '<', '>', '"', '\'', ';'].all fun c => c ∉ token) ∧
      ∀ name ∈ entityNames, ¬ token <:+: name)
    ⟨fun ⟨h₁, h₂, h₃⟩ => ⟨h₁, fun c hc => of_decide_eq_true (List.all_eq_true.1 h₂ c hc), h₃⟩,
      fun ⟨h₁, h₂, h₃⟩ => ⟨h₁, List.all_eq_true.2 fun c hc => decide_eq_true (h₂ c hc), h₃⟩⟩

theorem PlainToken.delimiters_eq_nil {token : List Char} (h : PlainToken token) :
    delimiters token = [] := by
  rw [delimiters, List.filter_eq_nil_iff]
  intro c hc
  rw [decide_eq_true_eq]
  intro hm
  refine h.not_mem c ?_ hc
  simp only [List.mem_cons, List.not_mem_nil, or_false] at hm ⊢
  tauto

theorem PlainToken.entity_before {token name s t : List Char} (h : PlainToken token)
    (hn : name ∈ entityNames) (hp : name ++ [';'] <+: s ++ (token ++ t)) :
    name ++ [';'] <+: s := by
  rcases List.prefix_or_prefix_of_prefix hp (List.prefix_append s _) with hs | ⟨y, hy⟩
  · exact hs
  · -- `y` is what the entity would have in common with the token and what follows
    rw [← hy, List.prefix_append_right_inj] at hp
    rcases List.eq_nil_or_concat y with rfl | ⟨z, d, rfl⟩
    · rw [← hy, List.append_nil]
    · rw [List.concat_eq_append, ← List.append_assoc] at hy
      obtain ⟨hname, hd⟩ := List.append_inj' hy rfl
      obtain rfl : d = ';' := List.singleton_inj.1 hd
      rw [List.concat_eq_append] at hp
      have hsemi : ';' ∉ token := h.not_mem ';' (by decide)
      rcases List.prefix_or_prefix_of_prefix hp (List.prefix_append token t) with ht | ht
      · exact absurd (ht.subset (List.mem_append_right z (List.mem_singleton_self _))) hsemi
      · rcases List.prefix_concat_iff.1 ht with ht | ht
        · rw [ht] at hsemi
          exact absurd (List.mem_append_right z (List.mem_singleton_self _)) hsemi
        · refine absurd ?_ (h.not_infix_name name hn)
          rw [← hname]
          exact ht.isInfix.trans List.infix_append_right

theorem PlainToken.ampersandsNamed_before {token s t : List Char} (h : PlainToken token)
    (ha : AmpersandsNamed (s ++ (token ++ t))) : AmpersandsNamed s := by
  induction s with
  | nil => trivial
  | cons c rest ih =>
    refine ⟨fun hc => ?_, ih ha.2⟩
    obtain ⟨name, hn, hp⟩ := ha.1 hc
    exact ⟨name, hn, h.entity_before hn hp⟩

/-! ## Pieces -/

theorem delimiters_join (p : Pieces) {separator : List Char} (h : delimiters separator = []) :
    delimiters (p.join separator) = p.all.flatMap delimiters := by
  obtain ⟨first, others⟩ := p
  induction others generalizing first with
  | nil => simp [Pieces.all]
  | cons next more ih =>
    rw [Pieces.join_cons, delimiters_append, delimiters_append, h, List.nil_append, ih]
    rfl

theorem ampersandsNamed_join {p : Pieces} {separator : List Char}
    (hp : ∀ piece ∈ p.all, AmpersandsNamed piece) (hs : AmpersandsNamed separator) :
    AmpersandsNamed (p.join separator) := by
  obtain ⟨first, others⟩ := p
  induction others generalizing first with
  | nil =>
    rw [Pieces.join_nil]
    exact hp first List.mem_cons_self
  | cons next more ih =>
    rw [Pieces.join_cons]
    exact (hp first List.mem_cons_self).append
      (hs.append (ih next fun piece hm => hp piece (List.mem_cons_of_mem _ hm)))

/-- In a text with named ampersands, the pieces around a plain token have named ampersands. -/
theorem PlainToken.ampersandsNamed_of_join {token : List Char} (h : PlainToken token) {p : Pieces}
    (ha : AmpersandsNamed (p.join token)) : ∀ piece ∈ p.all, AmpersandsNamed piece := by
  obtain ⟨first, others⟩ := p
  induction others generalizing first with
  | nil =>
    rw [Pieces.join_nil] at ha
    intro piece hm
    rwa [List.mem_singleton.1 hm]
  | cons next more ih =>
    rw [Pieces.join_cons] at ha
    intro piece hm
    rcases List.mem_cons.1 hm with rfl | hm
    · exact h.ampersandsNamed_before ha
    · exact ih next ha.of_append_right.of_append_right piece hm

/-! ## Replacing a plain token -/

theorem PlainToken.delimiters_replaceAll {token value : List Char} (h : PlainToken token)
    (hv : delimiters value = []) (text : List Char) :
    delimiters (replaceAll token value text).1 = delimiters text := by
  cases token with
  | nil => exact absurd rfl h.ne_nil
  | cons first others =>
    rw [replaceAll, replaceToken_eq, delimiters_join _ hv,
      ← delimiters_join _ h.delimiters_eq_nil, join_piecesAt]

theorem PlainToken.ampersandsNamed_replaceAll {token value text : List Char} (h : PlainToken token)
    (hv : AmpersandsNamed value) (ha : AmpersandsNamed text) :
    AmpersandsNamed (replaceAll token value text).1 := by
  cases token with
  | nil => exact absurd rfl h.ne_nil
  | cons first others =>
    rw [replaceAll, replaceToken_eq]
    rw [← join_piecesAt first others text] at ha
    exact ampersandsNamed_join (h.ampersandsNamed_of_join ha) hv

/-! ## All tokens -/

theorem delimiters_substitute {texts : Keyed String}
    (plain : ∀ token ∈ texts.keys, PlainToken token.toList) (text : List Char) :
    delimiters (substitute (replacements texts) text).1 = delimiters text := by
  induction texts generalizing text with
  | nil => rfl
  | cons entry rest ih =>
    obtain ⟨token, value⟩ := entry
    rw [replacements_cons, substitute_cons]
    refine (ih (fun t ht => plain t (List.mem_cons_of_mem _ ht)) _).trans ?_
    exact (plain token List.mem_cons_self).delimiters_replaceAll (delimiters_escapeMarkup _) text

theorem ampersandsNamed_substitute {texts : Keyed String} {text : List Char}
    (plain : ∀ token ∈ texts.keys, PlainToken token.toList) (named : AmpersandsNamed text) :
    AmpersandsNamed (substitute (replacements texts) text).1 := by
  induction texts generalizing text with
  | nil => exact named
  | cons entry rest ih =>
    obtain ⟨token, value⟩ := entry
    rw [replacements_cons, substitute_cons]
    refine ih (fun t ht => plain t (List.mem_cons_of_mem _ ht)) ?_
    exact (plain token List.mem_cons_self).ampersandsNamed_replaceAll
      (ampersandsNamed_escapeMarkup _) named

theorem plainToken_of_registered :
    ∀ table ∈ registeredTables, ∀ slide ∈ table.slides, ∀ token ∈ slide.placeholders.keys,
      PlainToken token.toList := by
  decide +kernel

/-- **No text of a workbook changes the markup.** Where the tokens are plain and the ampersands of a
slide are named, the delimiters after a substitution are those from before, whatever the texts are,
so they are the same for any two workbooks; and the ampersands are named again. The tokens of the
registered tables are plain. -/
theorem markup_substitute :
    (∀ (text : List Char) (texts : Keyed String), AmpersandsNamed text →
      (∀ token ∈ texts.keys, PlainToken token.toList) →
        delimiters (substitute (replacements texts) text).1 = delimiters text ∧
        AmpersandsNamed (substitute (replacements texts) text).1 ∧
        ∀ others : Keyed String, others.keys = texts.keys →
          delimiters (substitute (replacements others) text).1 =
            delimiters (substitute (replacements texts) text).1) ∧
    ∀ table ∈ registeredTables, ∀ slide ∈ table.slides, ∀ token ∈ slide.placeholders.keys,
      PlainToken token.toList := by
  refine ⟨fun text texts named plain => ?_, plainToken_of_registered⟩
  refine ⟨delimiters_substitute plain text, ampersandsNamed_substitute plain named, ?_⟩
  intro others hkeys
  rw [delimiters_substitute plain text]
  exact delimiters_substitute (hkeys ▸ plain) text

/-- The second token occurs in the value of the first one. -/
theorem markup_substitute_nested :
    (substitute (replacements [("[1]", "<[2]&"), ("[2]", "\"")]) "<[1]&lt;'".toList).1 =
        "<&lt;&quot;&amp;&lt;'".toList ∧
      delimiters "<&lt;&quot;&amp;&lt;'".toList = ['<', '\''] ∧
      AmpersandsNamed "<&lt;&quot;&amp;&lt;'".toList := by
  have value : (substitute (replacements [("[1]", "<[2]&"), ("[2]", "\"")]) "<[1]&lt;'".toList).1 =
      "<&lt;&quot;&amp;&lt;'".toList := by
    decide +kernel
  obtain ⟨hd, ha, -⟩ := markup_substitute.1 "<[1]&lt;'".toList
    [("[1]", "<[2]&"), ("[2]", "\"")] (by decide +kernel) (by decide +kernel)
  rw [value] at hd ha
  exact ⟨value, hd.trans (by decide +kernel), ha⟩

end SlideMerge.Deck

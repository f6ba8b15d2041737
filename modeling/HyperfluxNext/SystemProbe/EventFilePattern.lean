import Mathlib.Computability.Language

namespace HyperfluxNext

namespace SystemProbe

open List

def regexMetacharacters : List Char := ['\\', '.', '^', '$', '|', '?', '*', '+', '(', ')', '[', ']', '{', '}']

def openrazerEventFileSuffixes : List (List Char) := ["-event-kbd".toList, "-event-mouse".toList]

/-- The first position at which the needle stands. -/
def find (needle haystack : List Char) : Option Nat :=
  (List.range (haystack.length + 1)).find? fun start => needle.isPrefixOf (haystack.drop start)

structure EventFilePattern where
  stem : List Char
  suffix : List Char
deriving DecidableEq

namespace EventFilePattern

def fromRegex (regex : List Char) : Option EventFilePattern := do
  guard (['.', '*'].isPrefixOf regex)
  let body := regex.drop 2
  let suffix ← openrazerEventFileSuffixes.find? fun suffix => suffix.isSuffixOf body
  let middle := body.take (body.length - suffix.length)
  let stem := middle.takeWhile fun character => character ∉ regexMetacharacters
  guard (stem ≠ [])
  return ⟨stem, suffix⟩

def mayMatch (pattern : EventFilePattern) (name : List Char) : Bool :=
  (find pattern.stem name).any fun start =>
    (find pattern.suffix (name.drop (start + pattern.stem.length))).isSome

end EventFilePattern

/-- Regular expressions, one constructor for each form of the syntax. -/
inductive Regex where
  | literal (character : Char) | any | group (inner : Regex)
  | optional (atom : Regex) | star (atom : Regex) | plus (atom : Regex)
  | empty | append (first rest : Regex) | either (first rest : Regex)

namespace Regex

def text : Regex → List Char
  | .literal character => [character]
  | .any => ['.']
  | .group inner => '(' :: (inner.text ++ [')'])
  | .optional atom => atom.text ++ ['?']
  | .star atom => atom.text ++ ['*']
  | .plus atom => atom.text ++ ['+']
  | .empty => []
  | .append first rest => first.text ++ rest.text
  | .either first rest => first.text ++ '|' :: rest.text

inductive Level where
  | atom | item | sequence | choice

/-- The trees that the text of an expression stands for. -/
def Formed : Level → Regex → Prop
  | .atom, .literal character | .item, .literal character => character ∉ regexMetacharacters
  | .atom, .any | .item, .any => True
  | .atom, .group inner | .item, .group inner => inner.Formed .choice
  | .item, .optional atom | .item, .star atom | .item, .plus atom => atom.Formed .atom
  | .sequence, .empty | .choice, .empty => True
  | .sequence, .append first rest | .choice, .append first rest => first.Formed .item ∧ rest.Formed .sequence
  | .choice, .either first rest => first.Formed .sequence ∧ rest.Formed .choice
  | _, _ => False

/-- The words that an expression matches; `.` matches no newline. -/
def words : Regex → Language Char
  | .literal character => {[character]}
  | .any => { word | ∃ character, character ≠ '\n' ∧ word = [character] }
  | .group inner => inner.words
  | .optional atom => 1 + atom.words
  | .star atom => KStar.kstar atom.words
  | .plus atom => atom.words * KStar.kstar atom.words
  | .empty => 1
  | .append first rest => first.words * rest.words
  | .either first rest => first.words + rest.words

/-- Matching at the start of a name, whatever follows. -/
def Matches (regex : Regex) (name : List Char) : Prop := ∃ word rest, name = word ++ rest ∧ word ∈ regex.words

end Regex

variable {needle haystack before after stem : List Char} {pattern : EventFilePattern}

theorem find_of_infix (h : haystack = before ++ needle ++ after) :
    ∃ start, find needle haystack = some start ∧ start ≤ before.length := by
  have hhere : needle.isPrefixOf (haystack.drop before.length) = true := by
    rw [h, append_assoc, drop_left, isPrefixOf_iff_prefix]
    exact prefix_append _ _
  have hlength : before.length < haystack.length + 1 := by
    rw [h]
    simp only [length_append]
    omega
  cases hfind : find needle haystack with
  | none => exact absurd hhere (find?_eq_none.mp hfind _ (mem_range.mpr hlength))
  | some start =>
    refine ⟨start, rfl, Nat.not_lt.mp fun hlater => ?_⟩
    have hnot := (find?_range_eq_some.mp hfind).2.2 before.length hlater
    rw [hhere] at hnot
    cases hnot

theorem mayMatch_of_split {name between : List Char}
    (h : name = before ++ pattern.stem ++ between ++ pattern.suffix ++ after)
    : pattern.mayMatch name = true := by
  have hname : name = before ++ pattern.stem ++ (between ++ pattern.suffix ++ after) := by
    simp [h]
  obtain ⟨start, hfind, hstart⟩ := find_of_infix hname
  have hdrop : name.drop (start + pattern.stem.length) =
      (before ++ pattern.stem).drop (start + pattern.stem.length) ++ between ++ pattern.suffix ++ after := by
    have hlength : start + pattern.stem.length ≤ (before ++ pattern.stem).length := by
      rw [length_append]
      omega
    rw [hname, drop_append_of_le_length hlength]
    simp only [append_assoc]
  obtain ⟨_, hsuffix, _⟩ := find_of_infix hdrop
  rw [EventFilePattern.mayMatch, hfind, Option.any_some, hsuffix]
  rfl

def Plain (characters : List Char) : Prop := ∀ character ∈ characters, character ∉ regexMetacharacters

instance : DecidablePred Plain := fun _ => decidableBAll _ _

namespace Regex

/-- A sequence is its items, one after the other. -/
theorem formed_sequence {regex : Regex} (h : regex.Formed .sequence) : ∃ items : List Regex,
    (∀ item ∈ items, item.Formed .item) ∧ regex.text = items.flatMap text ∧
      regex.words = (items.map words).prod := by
  induction regex with
  | empty => exact ⟨[], by simp, rfl, rfl⟩
  | append first rest _ ih =>
    obtain ⟨hfirst, hrest⟩ := h
    obtain ⟨items, hitems, htext, hwords⟩ := ih hrest
    refine ⟨first :: items, forall_mem_cons.mpr ⟨hfirst, hitems⟩, ?_, ?_⟩
    · rw [text, htext, flatMap_cons]
    · rw [words, hwords, map_cons, prod_cons]
  | literal | any | group | optional | star | plus | either => exact h.elim

variable {item : Regex}

/-- The last character of an item's text; a plain one is the item. -/
theorem formed_last (h : item.Formed .item) : ∃ front last, item.text = front ++ [last] ∧
    (last ∉ regexMetacharacters → item = .literal last ∧ front = []) := by
  cases item with
  | literal character => exact ⟨[], character, rfl, fun _ => ⟨rfl, rfl⟩⟩
  | any => exact ⟨[], '.', rfl, fun hplain => absurd (by decide) hplain⟩
  | group inner => exact ⟨'(' :: inner.text, ')', rfl, fun hplain => absurd (by decide) hplain⟩
  | optional atom => exact ⟨atom.text, '?', rfl, fun hplain => absurd (by decide) hplain⟩
  | star atom => exact ⟨atom.text, '*', rfl, fun hplain => absurd (by decide) hplain⟩
  | plus atom => exact ⟨atom.text, '+', rfl, fun hplain => absurd (by decide) hplain⟩
  | empty | append | either => exact h.elim

variable {items : List Regex}

/-- Plain characters at the end of the text are literals at the end of the items. -/
theorem items_suffix (h : ∀ item ∈ items, item.Formed .item) {front suffix : List Char}
    (htext : items.flatMap text = front ++ suffix) (hplain : Plain suffix) :
    ∃ init, items = init ++ suffix.map .literal ∧ init.flatMap text = front := by
  induction suffix using List.reverseRecOn generalizing items front with
  | nil => exact ⟨items, by simp, by simpa using htext⟩
  | append_singleton suffix last ih =>
    obtain hnil | ⟨init, item, hitems⟩ := eq_nil_or_concat items
    · rw [hnil] at htext
      simp at htext
    subst hitems
    obtain ⟨itemFront, itemLast, hitem, hliteral⟩ := formed_last (h item (by simp))
    rw [concat_eq_append, flatMap_append, flatMap_singleton, hitem, ← append_assoc, ← append_assoc] at htext
    obtain ⟨hfront, hlast⟩ := append_inj' htext rfl
    cases hlast
    obtain ⟨hitem, hnone⟩ := hliteral (hplain last (by simp))
    rw [hnone, append_nil] at hfront
    obtain ⟨others, hinit, hothers⟩ := ih (fun other hother => h other (by simp [hother])) hfront
      fun character hcharacter => hplain character (by simp [hcharacter])
    exact ⟨others, by simp [hinit, hitem], hothers⟩

variable {later : List Char}

/-- An item whose text starts with a plain character is the literal, or quantifies it. -/
theorem formed_front (h : item.Formed .item) {character : Char} {rest : List Char}
    (htext : item.text ++ rest = character :: later) (hplain : character ∉ regexMetacharacters) :
    item = .literal character ∧ later = rest ∨
    (later = '?' :: rest ∨ later = '*' :: rest) ∨ item = .plus (.literal character) ∧ later = '+' :: rest := by
  have hfirst : ∀ {atom : Regex} {more : List Char}, atom.Formed .atom → atom.text ++ more = character :: later →
      atom = .literal character ∧ later = more := by
    intro atom more hatom htext
    cases atom with
    | literal other =>
      cases htext
      exact ⟨rfl, rfl⟩
    | any =>
      cases htext
      exact absurd (by decide) hplain
    | group inner =>
      obtain ⟨hsame, _⟩ := List.cons.inj htext
      exact absurd (hsame ▸ by decide) hplain
    | optional | star | plus | empty | append | either => exact hatom.elim
  cases item with
  | literal other => exact .inl (hfirst h htext)
  | any | group inner => exact .inl (hfirst h htext)
  | optional atom =>
    rw [text, append_assoc] at htext
    exact .inr (.inl (.inl (hfirst h htext).2))
  | star atom =>
    rw [text, append_assoc] at htext
    exact .inr (.inl (.inr (hfirst h htext).2))
  | plus atom =>
    rw [text, append_assoc] at htext
    obtain ⟨hatom, hlater⟩ := hfirst h htext
    exact .inr (.inr ⟨by rw [hatom], hlater⟩)
  | empty | append | either => exact h.elim

/-- Words of items whose text starts with plain characters, the last of which is not made optional, start so too. -/
theorem items_front (h : ∀ item ∈ items, item.Formed .item) {stem : List Char}
    (htext : items.flatMap text = stem ++ later) (hplain : Plain stem)
    (hkept : ∀ character, later.head? = some character → character ≠ '?' ∧ character ≠ '*') {word : List Char}
    (hword : word ∈ (items.map words).prod) : ∃ rest, word = stem ++ rest := by
  induction stem generalizing items word with
  | nil => exact ⟨word, rfl⟩
  | cons character stem ih =>
    cases items with
    | nil => cases htext
    | cons item items =>
      rw [flatMap_cons, cons_append] at htext
      rw [map_cons, prod_cons] at hword
      obtain ⟨first, hfirst, others, hothers, hsplit⟩ := Language.mem_mul.mp hword
      have hmark : ∀ mark ∈ ['?', '*', '+'], stem ++ later = mark :: items.flatMap text →
          stem = [] ∧ later.head? = some mark := by
        intro mark hmark hsame
        cases stem with
        | nil =>
          rw [nil_append] at hsame
          exact ⟨rfl, by rw [hsame]; rfl⟩
        | cons other stem =>
          have hother : mark ∉ regexMetacharacters := (List.cons.inj hsame).1 ▸ hplain other (by simp)
          revert hother hmark
          clear * -
          intro hmark hother
          simp only [mem_cons, not_mem_nil, or_false] at hmark
          obtain hmark | hmark | hmark := hmark <;> exact absurd (hmark ▸ by decide) hother
      obtain ⟨hitem, hrest⟩ | (hrest | hrest) | ⟨hitem, hrest⟩ :=
        formed_front (h item mem_cons_self) htext (hplain character mem_cons_self)
      · subst hitem
        obtain ⟨rest, hothers⟩ := ih (fun other hother => h other (mem_cons_of_mem _ hother)) hrest.symm
          (fun other hother => hplain other (mem_cons_of_mem _ hother)) hothers
        cases hfirst
        exact ⟨rest, by rw [← hsplit, hothers]; rfl⟩
      · exact absurd rfl (hkept '?' (hmark '?' (by simp) hrest).2).1
      · exact absurd rfl (hkept '*' (hmark '*' (by simp) hrest).2).2
      subst hitem
      rw [words] at hfirst
      obtain ⟨one, hone, more, _, hmore⟩ := Language.mem_mul.mp hfirst
      cases hone
      exact ⟨more ++ others, by rw [← hsplit, ← hmore, (hmark '+' (by simp) hrest).1]; simp⟩

theorem formed_head (h : item.Formed .item) :
    ∃ first rest, item.text = first :: rest ∧ first ≠ '*' := by
  have hatom : ∀ {atom : Regex}, atom.Formed .atom → ∃ first rest, atom.text = first :: rest ∧ first ≠ '*' := by
    intro atom hatom
    cases atom with
    | literal character =>
      refine ⟨character, [], rfl, fun hstar => hatom ?_⟩
      rw [hstar]
      decide
    | any => exact ⟨'.', [], rfl, by decide⟩
    | group inner => exact ⟨'(', inner.text ++ [')'], rfl, by decide⟩
    | optional | star | plus | empty | append | either => exact hatom.elim
  cases item with
  | literal | any | group => exact hatom h
  | optional atom | star atom | plus atom =>
    obtain ⟨first, rest, htext, hfirst⟩ := hatom h
    exact ⟨first, _, by rw [text, htext]; rfl, hfirst⟩
  | empty | append | either => exact h.elim

/-- A text that starts with `.*` starts with the item that matches anything. -/
theorem items_any (h : ∀ item ∈ items, item.Formed .item) (htext : items.flatMap text = '.' :: '*' :: later) :
    ∃ others, items = .star .any :: others ∧ others.flatMap text = later := by
  cases items with
  | nil => cases htext
  | cons item items =>
    rw [flatMap_cons] at htext
    obtain ⟨hitem, hitems⟩ := forall_mem_cons.mp h
    have hatom : ∀ (atom : Regex) {more : List Char}, atom.Formed .atom → atom.text ++ more = '.' :: '*' :: later →
        atom = .any ∧ more = '*' :: later := by
      intro atom more hatom hsame
      cases atom with
      | literal character =>
        cases hsame
        exact absurd (by decide) hatom
      | any =>
        cases hsame
        exact ⟨rfl, rfl⟩
      | group inner => cases (List.cons.inj hsame).1
      | optional | star | plus | empty | append | either => exact hatom.elim
    have hunstarred : items.flatMap text ≠ '*' :: later := by
      intro hrest
      cases items with
      | nil => cases hrest
      | cons next items =>
        obtain ⟨first, rest, hnext, hfirst⟩ := formed_head (hitems next mem_cons_self)
        rw [flatMap_cons, hnext] at hrest
        exact hfirst (List.cons.inj hrest).1
    cases item with
    | literal character => exact absurd (hatom (.literal character) hitem htext).2 hunstarred
    | any => exact absurd (hatom .any hitem htext).2 hunstarred
    | group inner => exact absurd (hatom (.group inner) hitem htext).2 hunstarred
    | optional atom | plus atom =>
      rw [text, append_assoc] at htext
      cases (List.cons.inj (hatom atom hitem htext).2).1
    | star atom =>
      rw [text, append_assoc] at htext
      obtain ⟨hany, hrest⟩ := hatom atom hitem htext
      exact ⟨items, by rw [hany], (List.cons.inj hrest).2⟩
    | empty | append | either => exact hitem.elim

theorem literals_words (suffix : List Char) : ((suffix.map literal).map words).prod = {suffix} := by
  induction suffix with
  | nil => rfl
  | cons character suffix ih =>
    rw [map_cons, map_cons, prod_cons, ih, words]
    exact Set.image2_singleton

end Regex

/-- What an accepted expression consists of, and the pattern made of it. -/
theorem fromRegex_some {regex : List Char} (h : EventFilePattern.fromRegex regex = some pattern) : ∃ later,
      regex = '.' :: '*' :: (pattern.stem ++ later ++ pattern.suffix) ∧ Plain pattern.stem ∧ Plain pattern.suffix ∧
        pattern.stem ≠ [] := by
  simp only [EventFilePattern.fromRegex, Option.bind_eq_bind, Option.bind_eq_some_iff, Option.guard_eq_some',
    Option.pure_def, Option.some.injEq] at h
  obtain ⟨_, hstart, suffix, hsuffix, _, hstem, hpattern⟩ := h
  subst hpattern
  obtain ⟨body, hbody⟩ := isPrefixOf_iff_prefix.mp hstart
  subst hbody
  have hends := find?_some hsuffix
  obtain ⟨middle, hmiddle⟩ := isSuffixOf_iff_suffix.mp hends
  change middle ++ suffix = body at hmiddle
  subst hmiddle
  have htake : (List.drop 2 (['.', '*'] ++ (middle ++ suffix))).take
      ((List.drop 2 (['.', '*'] ++ (middle ++ suffix))).length - suffix.length) = middle := by
    simp
  rw [htake] at hstem ⊢
  refine ⟨middle.dropWhile fun character => character ∉ regexMetacharacters, ?_, fun character hmem => ?_, ?_, hstem⟩
  · dsimp only
    rw [takeWhile_append_dropWhile]
    rfl
  · have hall : (middle.takeWhile fun character => character ∉ regexMetacharacters).all
        (fun character => character ∉ regexMetacharacters) = true := all_takeWhile
    exact of_decide_eq_true (all_eq_true.mp hall character hmem)
  have hplain : ∀ suffix ∈ openrazerEventFileSuffixes, Plain suffix := by
    decide
  exact hplain suffix (mem_of_find?_eq_some hsuffix)

/-- The expression has no alternation outside its groups, and nothing after the stem makes the stem's last character
optional. -/
def KeepsStem (regex : Regex) (pattern : EventFilePattern) : Prop :=
  regex.Formed .sequence ∧ ∀ character, (regex.text.drop (2 + pattern.stem.length)).head? = some character →
    character ≠ '?' ∧ character ≠ '*'

/-- The prefilter of an expression that keeps its stem misses no name that the expression matches. -/
theorem event_file_pattern_covers (regex : Regex) {pattern : EventFilePattern}
    (hpattern : EventFilePattern.fromRegex regex.text = some pattern) (hkeeps : KeepsStem regex pattern)
    (name : List Char) (hmatches : regex.Matches name) : pattern.mayMatch name = true := by
  obtain ⟨hformed, hkept⟩ := hkeeps
  obtain ⟨later, htext, hstem, hsuffix, _⟩ := fromRegex_some hpattern
  obtain ⟨items, hitems, hitemsText, hwords⟩ := Regex.formed_sequence hformed
  obtain ⟨others, hothers, hothersText⟩ := Regex.items_any hitems (hitemsText.symm.trans htext)
  subst hothers
  have hotherItems := fun item hitem => hitems item (mem_cons_of_mem _ hitem)
  obtain ⟨init, hinit, hinitText⟩ := Regex.items_suffix hotherItems hothersText hsuffix
  subst hinit
  obtain ⟨word, rest, hname, hword⟩ := hmatches
  rw [hwords, map_cons, prod_cons, map_append, prod_append, Regex.literals_words] at hword
  obtain ⟨before, _, tail, htail, hsplit⟩ := Language.mem_mul.mp hword
  obtain ⟨middle, hmiddle, last, hlast, hjoin⟩ := Language.mem_mul.mp htail
  have hhead : ∀ character, later.head? = some character → character ≠ '?' ∧ character ≠ '*' := by
    intro character hcharacter
    refine hkept character ?_
    rw [htext]
    cases later with
    | nil => cases hcharacter
    | cons first later =>
      cases hcharacter
      simp [Nat.add_comm 2]
  obtain ⟨between, hbetween⟩ := Regex.items_front (fun item hitem => hotherItems item (by simp [hitem])) hinitText
    hstem hhead hmiddle
  cases hlast
  have hplaces : name = before ++ pattern.stem ++ between ++ pattern.suffix ++ rest := by
    rw [hname, ← hsplit, ← hjoin, hbetween]
    simp only [append_assoc]
  exact mayMatch_of_split hplaces

def literals (characters : List Char) : Regex :=
  characters.foldr (fun character rest => .append (.literal character) rest) .empty

theorem literals_formed {characters : List Char} (h : Plain characters) : (literals characters).Formed .sequence := by
  induction characters with
  | nil => trivial
  | cons character characters ih =>
    obtain ⟨hfirst, hrest⟩ := forall_mem_cons.mp h
    exact ⟨hfirst, ih hrest⟩

theorem mem_literals_words (characters : List Char) : characters ∈ (literals characters).words := by
  induction characters with
  | nil => exact rfl
  | cons character characters ih => exact Language.mem_mul.mpr ⟨[character], rfl, characters, ih, rfl⟩

/-- `.*a` with a `b` that may be missing, and the keyboard's suffix. -/
def quantified (optional : Regex) : Regex :=
  .append (.star .any) (.append (.literal 'a') (.append (.optional optional) (literals "-event-kbd".toList)))

theorem quantified_matches (optional : Regex) : (quantified optional).Matches "a-event-kbd".toList := by
  refine ⟨"a-event-kbd".toList, [], by simp, ?_⟩
  refine Language.mem_mul.mpr ⟨[], Language.nil_mem_kstar _, "a-event-kbd".toList, ?_, rfl⟩
  refine Language.mem_mul.mpr ⟨['a'], rfl, "-event-kbd".toList, ?_, rfl⟩
  exact Language.mem_mul.mpr ⟨[], .inl rfl, "-event-kbd".toList, mem_literals_words _, rfl⟩

theorem quantified_formed {optional : Regex} (h : optional.Formed .atom) :
    (quantified optional).Formed .sequence := by
  have hsuffix : Plain "-event-kbd".toList := by
    decide
  exact ⟨trivial, by simp [Regex.Formed, regexMetacharacters], h, literals_formed hsuffix⟩

theorem event_file_pattern_covers_group :
    EventFilePattern.mayMatch ⟨['a'], "-event-kbd".toList⟩ "a-event-kbd".toList = true := by
  have hgroup : (Regex.group (.append (.literal 'b') .empty)).Formed .atom :=
    ⟨by simp [Regex.Formed, regexMetacharacters], trivial⟩
  refine event_file_pattern_covers (quantified (.group (.append (.literal 'b') .empty))) (by decide)
    ⟨quantified_formed hgroup, fun character hcharacter => ?_⟩ _ (quantified_matches _)
  cases hcharacter
  decide

theorem optional_stem_missed : ¬ ∀ (regex : Regex) (pattern : EventFilePattern) (name : List Char),
    regex.Formed .choice → EventFilePattern.fromRegex regex.text = some pattern → regex.Matches name →
    pattern.mayMatch name = true := by
  intro hall
  have hletter : (Regex.literal 'b').Formed .atom := by
    simp [Regex.Formed, regexMetacharacters]
  have hformed : (quantified (.literal 'b')).Formed .choice := quantified_formed hletter
  have hmissed := hall (quantified (.literal 'b')) ⟨"ab".toList, "-event-kbd".toList⟩ "a-event-kbd".toList hformed
    (by decide) (quantified_matches _)
  revert hmissed
  decide

end SystemProbe

end HyperfluxNext

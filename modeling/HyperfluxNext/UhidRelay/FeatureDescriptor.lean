import Mathlib.Data.List.Basic
import Mathlib.Algebra.Ring.Nat

namespace HyperfluxNext

namespace UhidRelay

open List

def hidMaxDescriptorSize : Nat := 4096

def itemPayloadBytes (itemPrefix : UInt8) : Nat :=
  if itemPrefix &&& 0x03 = 0 then 0
  else if itemPrefix &&& 0x03 = 1 then 1
  else if itemPrefix &&& 0x03 = 2 then 2
  else 4

def itemType (itemPrefix : UInt8) : UInt8 := (itemPrefix >>> 2) &&& 0x03

def itemTag (itemPrefix : UInt8) : UInt8 := itemPrefix >>> 4

/-- The loop of the check from an offset on, `none` where an index is out of range. -/
def scanItems (descriptor : List UInt8) (offset collectionDepth featureItems : Nat) : Option Bool :=
  if _h : offset < descriptor.length then
    match descriptor[offset]? with
    | none => none
    | some itemPrefix =>
      let payloadBytes := itemPayloadBytes itemPrefix
      let next := offset + (1 + payloadBytes)
      if itemPrefix = 0xfe ∨ 2 ^ 64 ≤ next ∨ descriptor.length < next then some false
      else if itemType itemPrefix = 0 then
        if itemTag itemPrefix = 0x0a ∧ 0 < payloadBytes then
          if collectionDepth + 1 < 2 ^ 16 then scanItems descriptor next (collectionDepth + 1) featureItems
          else some false
        else if itemTag itemPrefix = 0x0b ∧ 0 < payloadBytes ∧ 0 < collectionDepth then
          if featureItems + 1 < 2 ^ 16 then scanItems descriptor next collectionDepth (featureItems + 1)
          else some false
        else if itemTag itemPrefix = 0x0c ∧ payloadBytes = 0 ∧ 0 < collectionDepth then
          scanItems descriptor next (collectionDepth - 1) featureItems
        else some false
      else scanItems descriptor next collectionDepth featureItems
  else some (collectionDepth = 0 ∧ 0 < featureItems)
termination_by descriptor.length - offset

def isFeatureOnlyDescriptor (descriptor : List UInt8) : Option Bool := scanItems descriptor 0 0 0

/-- A short item of a HID report descriptor. -/
structure ShortItem where
  itemPrefix : UInt8
  payload : List UInt8

namespace ShortItem

def bytes (item : ShortItem) : List UInt8 := item.itemPrefix :: item.payload

structure Complete (item : ShortItem) : Prop where
  short : item.itemPrefix ≠ 0xfe
  payload : item.payload.length = itemPayloadBytes item.itemPrefix

def IsMain (item : ShortItem) : Prop := itemType item.itemPrefix = 0

def IsCollection (item : ShortItem) : Prop := item.IsMain ∧ itemTag item.itemPrefix = 0x0a

def IsFeature (item : ShortItem) : Prop := item.IsMain ∧ itemTag item.itemPrefix = 0x0b

def IsEndCollection (item : ShortItem) : Prop := item.IsMain ∧ itemTag item.itemPrefix = 0x0c

end ShortItem

/-- Items that close what the depth says is open: collections are balanced, and features lie inside them. -/
inductive Nested : Nat → List ShortItem → Prop
  | done : Nested 0 []
  | plain {depth item items} (h : ¬ item.IsMain) (hrest : Nested depth items) : Nested depth (item :: items)
  | collection {depth item items} (h : item.IsCollection) (hpayload : item.payload ≠ [])
      (hrest : Nested (depth + 1) items) : Nested depth (item :: items)
  | feature {depth item items} (h : item.IsFeature) (hpayload : item.payload ≠ [])
      (hrest : Nested (depth + 1) items) : Nested (depth + 1) (item :: items)
  | endCollection {depth item items} (h : item.IsEndCollection) (hpayload : item.payload = [])
      (hrest : Nested depth items) : Nested (depth + 1) (item :: items)

/-- The bytes are complete short items, nested from a depth on, with a feature among them or before. -/
def FeatureOnly (bytes : List UInt8) (depth features : Nat) : Prop :=
  ∃ items : List ShortItem, bytes = items.flatMap ShortItem.bytes ∧ (∀ item ∈ items, item.Complete) ∧
    Nested depth items ∧ (0 < features ∨ ∃ item ∈ items, item.IsFeature)

variable {descriptor payload rest : List UInt8} {itemPrefix : UInt8} {offset depth features : Nat}

theorem featureOnly_nil : FeatureOnly [] depth features ↔ depth = 0 ∧ 0 < features := by
  constructor
  · intro ⟨items, hbytes, _, hnested, hfeature⟩
    cases items with
    | cons item items => cases hbytes
    | nil =>
      cases hnested
      exact ⟨rfl, hfeature.resolve_right (by simp)⟩
  intro ⟨hdepth, hfeatures⟩
  subst hdepth
  exact ⟨[], rfl, by simp, .done, .inl hfeatures⟩

/-- The first byte of the items says how many of the next ones are its payload. -/
theorem flatMap_cons_split {items : List ShortItem} (h : itemPrefix :: rest = items.flatMap ShortItem.bytes)
    (hcomplete : ∀ item ∈ items, item.Complete) : ∃ payload items', items = ⟨itemPrefix, payload⟩ :: items' ∧
      payload.length = itemPayloadBytes itemPrefix ∧ itemPrefix ≠ 0xfe ∧
      rest = payload ++ items'.flatMap ShortItem.bytes := by
  cases items with
  | nil => cases h
  | cons item items =>
    rw [flatMap_cons, ShortItem.bytes, cons_append] at h
    obtain ⟨hhead, hrest⟩ := List.cons.inj h
    subst hhead
    have hitem := hcomplete item mem_cons_self
    exact ⟨item.payload, items, rfl, hitem.payload, hitem.short, hrest⟩

/-- What follows a complete item, by the kind of the item. -/
theorem featureOnly_cons (hshort : itemPrefix ≠ 0xfe) (hpayload : payload.length = itemPayloadBytes itemPrefix) :
    FeatureOnly (itemPrefix :: (payload ++ rest)) depth features ↔
      itemType itemPrefix ≠ 0 ∧ FeatureOnly rest depth features ∨
      itemType itemPrefix = 0 ∧ (itemTag itemPrefix = 0x0a ∧ 0 < payload.length ∧
          FeatureOnly rest (depth + 1) features ∨
        itemTag itemPrefix = 0x0b ∧ 0 < payload.length ∧ 0 < depth ∧ FeatureOnly rest depth (features + 1) ∨
        itemTag itemPrefix = 0x0c ∧ payload.length = 0 ∧ 0 < depth ∧ FeatureOnly rest (depth - 1) features) := by
  have hcomplete : ShortItem.Complete ⟨itemPrefix, payload⟩ := ⟨hshort, hpayload⟩
  constructor
  · intro ⟨items, hbytes, hall, hnested, hfeature⟩
    obtain ⟨payload', items', hitems, hlength, _, happend⟩ := flatMap_cons_split hbytes hall
    obtain ⟨hsame, hrest⟩ := append_inj happend (hpayload.trans hlength.symm)
    subst hitems hsame
    have hothers := fun item hitem => hall item (mem_cons_of_mem _ hitem)
    have hlater : ¬ ShortItem.IsFeature ⟨itemPrefix, payload⟩ →
        0 < features ∨ ∃ item ∈ items', ShortItem.IsFeature item := by
      intro hnot
      refine hfeature.imp_right fun ⟨item, hmem, hitem⟩ => ?_
      obtain hfirst | hmem := mem_cons.mp hmem
      · exact absurd (hfirst ▸ hitem) hnot
      · exact ⟨item, hmem, hitem⟩
    cases hnested with
    | plain h hnested => exact .inl ⟨h, items', hrest, hothers, hnested, hlater fun hnot => h hnot.1⟩
    | collection h hsome hnested =>
      refine .inr ⟨h.1, .inl ⟨h.2, length_pos_of_ne_nil hsome, items', hrest, hothers, hnested, hlater ?_⟩⟩
      exact fun hnot => absurd (h.2.symm.trans hnot.2) (by decide)
    | feature h hsome hnested =>
      exact .inr ⟨h.1, .inr (.inl ⟨h.2, length_pos_of_ne_nil hsome, Nat.succ_pos _, items', hrest, hothers,
        hnested, .inl (Nat.succ_pos _)⟩)⟩
    | endCollection h hnone hnested =>
      refine .inr ⟨h.1, .inr (.inr ⟨h.2, length_eq_zero_iff.mpr hnone, Nat.succ_pos _, items', hrest, hothers,
        hnested, hlater ?_⟩)⟩
      exact fun hnot => absurd (h.2.symm.trans hnot.2) (by decide)
  · have hbytes : ∀ items : List ShortItem, rest = items.flatMap ShortItem.bytes → itemPrefix :: (payload ++ rest) =
        (⟨itemPrefix, payload⟩ :: items : List ShortItem).flatMap ShortItem.bytes := by
      intro items hrest
      rw [flatMap_cons, ← hrest]
      rfl
    have hwith : ∀ items : List ShortItem, (∀ item ∈ items, item.Complete) →
        ∀ item ∈ (⟨itemPrefix, payload⟩ :: items : List ShortItem), item.Complete :=
      fun items hothers => forall_mem_cons.mpr ⟨hcomplete, hothers⟩
    have hmore : ∀ items : List ShortItem, (0 < features ∨ ∃ item ∈ items, item.IsFeature) →
        0 < features ∨ ∃ item ∈ (⟨itemPrefix, payload⟩ :: items : List ShortItem), item.IsFeature :=
      fun items => Or.imp_right fun ⟨item, hmem, hitem⟩ => ⟨item, mem_cons_of_mem _ hmem, hitem⟩
    rintro (⟨hkind, items, hrest, hothers, hnested, hfeature⟩ | ⟨hmain, hkinds⟩)
    · exact ⟨_, hbytes items hrest, hwith items hothers, .plain hkind hnested, hmore items hfeature⟩
    obtain ⟨htag, hsome, items, hrest, hothers, hnested, hfeature⟩ |
      ⟨htag, hsome, hdepth, items, hrest, hothers, hnested, _⟩ |
      ⟨htag, hnone, hdepth, items, hrest, hothers, hnested, hfeature⟩ := hkinds
    · exact ⟨_, hbytes items hrest, hwith items hothers, .collection ⟨hmain, htag⟩ (ne_nil_of_length_pos hsome)
        hnested, hmore items hfeature⟩
    · obtain ⟨depth, hsucc⟩ := Nat.exists_eq_succ_of_ne_zero (Nat.ne_of_gt hdepth)
      subst hsucc
      exact ⟨_, hbytes items hrest, hwith items hothers, .feature ⟨hmain, htag⟩ (ne_nil_of_length_pos hsome)
        hnested, .inr ⟨_, mem_cons_self, hmain, htag⟩⟩
    obtain ⟨depth, hsucc⟩ := Nat.exists_eq_succ_of_ne_zero (Nat.ne_of_gt hdepth)
    subst hsucc
    exact ⟨_, hbytes items hrest, hwith items hothers, .endCollection ⟨hmain, htag⟩
      (length_eq_zero_iff.mp hnone) hnested, hmore items hfeature⟩

theorem not_featureOnly_of_short (h : itemPrefix = 0xfe ∨ rest.length < itemPayloadBytes itemPrefix) :
    ¬ FeatureOnly (itemPrefix :: rest) depth features := by
  intro ⟨items, hbytes, hall, _, _⟩
  obtain ⟨payload, items', _, hlength, hshort, hrest⟩ := flatMap_cons_split hbytes hall
  have hfits : payload.length ≤ rest.length := by
    rw [hrest, length_append]
    exact Nat.le_add_right _ _
  exact h.elim hshort (by omega)

/-- From every offset the loop answers, and tells whether what is left is nested items. -/
theorem scanItems_iff (hsize : descriptor.length ≤ hidMaxDescriptorSize) (hoffset : offset ≤ descriptor.length)
    (hdepth : depth ≤ offset) (hfeatures : features ≤ offset) :
    ∃ answer, scanItems descriptor offset depth features = some answer ∧
      (answer = true ↔ FeatureOnly (descriptor.drop offset) depth features) := by
  have hsmall : descriptor.length ≤ 4096 := hsize
  induction hleft : descriptor.length - offset using Nat.strongRecOn generalizing offset depth features with
  | ind left ih =>
    unfold scanItems
    by_cases hmore : offset < descriptor.length
    case neg =>
      rw [dif_neg hmore, drop_eq_nil_of_le (Nat.not_lt.mp hmore)]
      exact ⟨_, rfl, decide_eq_true_iff.trans featureOnly_nil.symm⟩
    rw [dif_pos hmore, getElem?_eq_getElem hmore, drop_eq_getElem_cons hmore]
    generalize descriptor[offset] = itemPrefix
    dsimp only
    split
    next hstops =>
      refine ⟨false, rfl, iff_of_false Bool.false_ne_true (not_featureOnly_of_short (hstops.imp_right fun hpast => ?_))⟩
      have hpayload : itemPayloadBytes itemPrefix ≤ 4 := by
        unfold itemPayloadBytes
        split_ifs <;> omega
      rw [length_drop]
      omega
    next hgoes =>
      simp only [not_or, Nat.not_le, Nat.not_lt] at hgoes
      obtain ⟨hshort, _, hfits⟩ := hgoes
      have hpayload : ((descriptor.drop (offset + 1)).take (itemPayloadBytes itemPrefix)).length =
          itemPayloadBytes itemPrefix := by
        rw [length_take, length_drop]
        omega
      have hsplit : descriptor.drop (offset + 1) = (descriptor.drop (offset + 1)).take (itemPayloadBytes itemPrefix) ++
          descriptor.drop (offset + (1 + itemPayloadBytes itemPrefix)) := by
        have hdrop : descriptor.drop (offset + (1 + itemPayloadBytes itemPrefix)) =
            (descriptor.drop (offset + 1)).drop (itemPayloadBytes itemPrefix) := by
          rw [drop_drop, Nat.add_assoc]
        rw [hdrop, take_append_drop]
      rw [hsplit]
      simp only [featureOnly_cons hshort hpayload, hpayload]
      have hnext : ∀ depth' features' : Nat, depth' ≤ offset + 1 → features' ≤ offset + 1 →
          ∃ answer, scanItems descriptor (offset + (1 + itemPayloadBytes itemPrefix)) depth' features' = some answer ∧
            (answer = true ↔ FeatureOnly (descriptor.drop (offset + (1 + itemPayloadBytes itemPrefix)))
              depth' features') := by
        intro depth' features' hdepth' hfeatures'
        exact ih _ (by omega) hfits (by omega) (by omega) rfl
      split
      next hmain =>
        simp only [hmain, ne_eq, not_true_eq_false, false_and, false_or, true_and]
        split
        next hcollection =>
          rw [if_pos (by omega)]
          obtain ⟨answer, hscan, hanswer⟩ := hnext (depth + 1) features (by omega) (by omega)
          refine ⟨answer, hscan, hanswer.trans ?_⟩
          simp [hcollection]
        next hcollection =>
          split
          next hfeature =>
            rw [if_pos (by omega)]
            obtain ⟨answer, hscan, hanswer⟩ := hnext depth (features + 1) (by omega) (by omega)
            refine ⟨answer, hscan, hanswer.trans ?_⟩
            simp [hfeature]
          next hfeature =>
            split
            next hend =>
              obtain ⟨answer, hscan, hanswer⟩ := hnext (depth - 1) features (by omega) (by omega)
              refine ⟨answer, hscan, hanswer.trans ?_⟩
              simp [hend]
            next hend =>
              refine ⟨false, rfl, iff_of_false Bool.false_ne_true ?_⟩
              rintro (⟨htag, hsome, _⟩ | ⟨htag, hsome, hpos, _⟩ | ⟨htag, hnone, hpos, _⟩)
              · exact hcollection ⟨htag, hsome⟩
              · exact hfeature ⟨htag, hsome, hpos⟩
              · exact hend ⟨htag, hnone, hpos⟩
      next hmain =>
        obtain ⟨answer, hscan, hanswer⟩ := hnext depth features (by omega) (by omega)
        refine ⟨answer, hscan, hanswer.trans ?_⟩
        simp [hmain]

/-- The check answers on every descriptor the kernel takes, and tells those of complete short items whose only main
items are balanced collections and the features inside them. -/
theorem featureOnlyDescriptor_iff (descriptor : List UInt8) (h : descriptor.length ≤ hidMaxDescriptorSize) :
    ∃ answer, isFeatureOnlyDescriptor descriptor = some answer ∧
      (answer = true ↔ ∃ items : List ShortItem, descriptor = items.flatMap ShortItem.bytes ∧
        (∀ item ∈ items, item.Complete) ∧ Nested 0 items ∧ ∃ item ∈ items, item.IsFeature) := by
  obtain ⟨answer, hscan, hanswer⟩ := scanItems_iff h (Nat.zero_le _) (Nat.le_refl 0) (Nat.le_refl 0)
  refine ⟨answer, hscan, hanswer.trans ?_⟩
  simp only [FeatureOnly, drop_zero, Nat.lt_irrefl, false_or]

/-- A vendor collection with one feature. -/
def vendorDescriptor : List UInt8 := [0x06, 0x00, 0xff, 0xa1, 0x01, 0x75, 0x08, 0xb1, 0x02, 0xc0]

theorem featureOnlyDescriptor_iff_vendor : ∃ answer, isFeatureOnlyDescriptor vendorDescriptor = some answer ∧
    (answer = true ↔ ∃ items : List ShortItem, vendorDescriptor = items.flatMap ShortItem.bytes ∧
      (∀ item ∈ items, item.Complete) ∧ Nested 0 items ∧ ∃ item ∈ items, item.IsFeature) :=
  featureOnlyDescriptor_iff vendorDescriptor (by decide)

end UhidRelay

end HyperfluxNext

import HyperfluxNext.Library.XorSum
import HyperfluxNext.Library.Procedure
import Mathlib.Tactic.IntervalCases
import Mathlib.Data.List.Chain

namespace HyperfluxNext

abbrev FeatureReport := Vector UInt8 90

namespace NativeCommand

inductive FieldMatcher where
  | exact (offset : Nat) (bytes : List UInt8)
  | oneOf (offset : Nat) (values : List UInt8)
  | u8Range (offset : Nat) (minimum maximum : UInt8)
  | be16Range (offset minimum maximum : Nat)
  | rgb (offset pixels : Nat)

inductive CustomFrameLengthMode where
  | exact | zeroPadded
deriving DecidableEq

inductive NativeMatcher where
  | fields (fields : List FieldMatcher)
  | customFrame (rows columns : UInt8) (lengthMode : CustomFrameLengthMode)
  | dpiStages (maximumStages : UInt8) (minimumDpi maximumDpi : Nat)

structure NativeCommandRule where
  commandClass : UInt8
  commandId : UInt8
  dataSizes : List UInt8
  matcher : NativeMatcher

structure NativeCommandPolicy where
  rules : List NativeCommandRule

/-- The bytes from the offset on, as many as asked for. -/
def getRange (arguments : List UInt8) (offset width : Nat) : Option (List UInt8) :=
  if offset + width ≤ arguments.length then some ((arguments.drop offset).take width) else none

def fromBe16 (high low : UInt8) : Nat := high.toNat * 256 + low.toNat

def FieldMatcher.accepts (arguments : List UInt8) : FieldMatcher → Bool
  | .exact offset bytes => getRange arguments offset bytes.length = some bytes
  | .oneOf offset values => arguments[offset]?.any (· ∈ values)
  | .u8Range offset minimum maximum => arguments[offset]?.any fun value => minimum ≤ value ∧ value ≤ maximum
  | .be16Range offset minimum maximum =>
    match getRange arguments offset 2 with
    | some [high, low] => minimum ≤ fromBe16 high low ∧ fromBe16 high low ≤ maximum
    | _ => false
  | .rgb offset pixels => (getRange arguments offset (pixels * 3)).isSome

def CustomFrameLengthMode.fits (used : Nat) (arguments : List UInt8) : CustomFrameLengthMode → Bool
  | .exact => used = arguments.length
  | .zeroPadded => used ≤ arguments.length ∧ (arguments.drop used).all (· = 0)

def customFrameAccepts (rows columns : UInt8) (lengthMode : CustomFrameLengthMode)
    (arguments : List UInt8) : Bool :=
  let byte (index : Nat) : UInt8 := arguments.getD index 0
  let start := (byte 3).toNat
  let stop := (byte 4).toNat
  let used := 5 + (stop - start + 1) * 3
  8 ≤ arguments.length ∧ byte 0 = 0 ∧ byte 1 = 0 ∧ byte 2 < rows ∧ start ≤ stop ∧
    stop < columns.toNat ∧ lengthMode.fits used arguments

def dpiStageAccepts (minimumDpi maximumDpi : Nat) (arguments : List UInt8) (index : Nat) : Bool :=
  let byte (position : Nat) : UInt8 := arguments.getD (3 + index * 7 + position) 0
  let x := fromBe16 (byte 1) (byte 2)
  let y := fromBe16 (byte 3) (byte 4)
  (byte 0).toNat = index ∧ minimumDpi ≤ x ∧ x ≤ maximumDpi ∧ minimumDpi ≤ y ∧ y ≤ maximumDpi ∧
    byte 5 = 0 ∧ byte 6 = 0

def dpiStagesAccepts (maximumStages : UInt8) (minimumDpi maximumDpi : Nat) (arguments : List UInt8) : Bool :=
  let active := arguments.getD 1 0
  let count := arguments.getD 2 0
  arguments.length = 38 ∧ arguments.getD 0 0 = 1 ∧ count ≠ 0 ∧ count ≤ maximumStages ∧ active ≠ 0 ∧
    active ≤ count ∧ (List.range count.toNat).all (dpiStageAccepts minimumDpi maximumDpi arguments) ∧
    (arguments.drop (3 + count.toNat * 7)).all (· = 0)

def NativeMatcher.accepts (arguments : List UInt8) : NativeMatcher → Bool
  | .fields matchers => matchers.all (·.accepts arguments)
  | .customFrame rows columns lengthMode => customFrameAccepts rows columns lengthMode arguments
  | .dpiStages maximumStages minimumDpi maximumDpi =>
    dpiStagesAccepts maximumStages minimumDpi maximumDpi arguments

def reportCrc (report : FeatureReport) : UInt8 := XorSum.xorSum (XorSum.slice report.toList 2 88)

/-- Whether the report is a complete, source-bound request. -/
def NativeCommandPolicy.allows (policy : NativeCommandPolicy) (report : FeatureReport) : Bool :=
  let dataSize := report[5].toNat
  let arguments := XorSum.slice report.toList 8 (8 + dataSize)
  report[0] = 0 ∧ report[1] ≠ 0 ∧ report[2] = 0 ∧ report[3] = 0 ∧ report[4] = 0 ∧ report[89] = 0 ∧
    report[88] = reportCrc report ∧ dataSize ≠ 0 ∧ dataSize ≤ 80 ∧
    (XorSum.slice report.toList (8 + dataSize) 88).all (· = 0) ∧
    policy.rules.any fun rule =>
      report[5] ∈ rule.dataSizes ∧ rule.commandClass = report[6] ∧ rule.commandId = report[7] ∧
        rule.matcher.accepts arguments

open Procedure List

def argumentBytes : Nat := 80

inductive FieldDocument where
  | exact (offset : Nat) (bytes : List UInt8)
  | oneOf (offset : Nat) (values : List UInt8)
  | u8Range (offset : Nat) (minimum maximum : UInt8)
  | be16Range (offset : Nat) (minimum maximum : UInt16)
  | rgb (offset pixels : Nat)

inductive MatcherDocument where
  | fields (fields : List FieldDocument)
  | customFrame (rows columns : UInt8) (lengthMode : Option CustomFrameLengthMode)
  | dpiStages (maximumStages : UInt8) (minimumDpi maximumDpi : UInt16)

structure NativePolicyRuleInput (V : Type) where
  commandClass : UInt8
  commandId : UInt8
  dataSizes : List UInt8
  matcher : V

structure NativeCommandPolicyError where

def FieldMatcher.width : FieldMatcher → Nat
  | .exact _ bytes => bytes.length
  | .oneOf .. | .u8Range .. => 1
  | .be16Range .. => 2
  | .rgb _ pixels => pixels * 3

def FieldMatcher.offset : FieldMatcher → Nat
  | .exact offset _ | .oneOf offset _ | .u8Range offset _ _ | .be16Range offset _ _ | .rgb offset _ => offset

def bindField : FieldDocument → Except NativeCommandPolicyError FieldMatcher
  | .exact offset bytes => do
    reject (bytes = [] ∨ argumentBytes < bytes.length) {}
    return .exact offset bytes
  | .oneOf offset values => do
    reject (values = [] ∨ 256 < values.length ∨ ¬ values.IsChain (· < ·)) {}
    return .oneOf offset values
  | .u8Range offset minimum maximum => do
    reject (maximum < minimum) {}
    return .u8Range offset minimum maximum
  | .be16Range offset minimum maximum => do
    reject (maximum < minimum) {}
    return .be16Range offset minimum.toNat maximum.toNat
  | .rgb offset pixels => do
    reject (pixels = 0 ∨ 26 < pixels) {}
    return .rgb offset pixels

def fillCovered (covered : List Bool) (offset stop : Nat) : List Bool :=
  covered.mapIdx fun index value => value || decide (offset ≤ index ∧ index < stop)

def coverField (dataSize : Nat) (state : List Bool × Option Nat) (field : FieldMatcher) :
    Except NativeCommandPolicyError (List Bool × Option Nat) := do
  let stop := field.offset + field.width
  reject (2 ^ 64 ≤ stop) {}
  reject (state.2.any (field.offset ≤ ·) ∨ dataSize < stop ∨
    ((state.1.drop field.offset).take field.width).any id) {}
  return (fillCovered state.1 field.offset stop, some field.offset)

def bindFields (fields : List FieldDocument) (dataSize : Nat) : Except NativeCommandPolicyError NativeMatcher := do
  reject (fields = [] ∨ argumentBytes < fields.length) {}
  let bound ← fields.mapM bindField
  let state ← bound.foldlM (coverField dataSize) (List.replicate dataSize false, none)
  reject (state.1.any (! ·)) {}
  return .fields bound

def bindMatcherForSizes (document : MatcherDocument) (dataSizes : List Nat) :
    Except NativeCommandPolicyError NativeMatcher :=
  match document with
  | .fields fields =>
    match dataSizes with
    | [dataSize] => bindFields fields dataSize
    | _ => .error {}
  | .customFrame rows columns lengthMode => do
    let lengthMode := lengthMode.getD .zeroPadded
    reject (dataSizes = [] ∨ (∃ size ∈ dataSizes, size < 8 ∨ argumentBytes < size) ∨ rows = 0 ∨ 32 < rows ∨
      columns = 0 ∨ 25 < columns ∨ lengthMode = .zeroPadded ∧ dataSizes ≠ [71] ∨
      lengthMode = .exact ∧ ∃ size ∈ dataSizes, (size - 5) % 3 ≠ 0) {}
    return .customFrame rows columns lengthMode
  | .dpiStages maximumStages minimumDpi maximumDpi => do
    reject (dataSizes ≠ [38] ∨ maximumStages = 0 ∨ 5 < maximumStages ∨ minimumDpi = 0 ∨ maximumDpi < minimumDpi) {}
    return .dpiStages maximumStages minimumDpi.toNat maximumDpi.toNat

section Binding

variable {V : Type} (fromValue : V → Option MatcherDocument)

def bindRule (input : NativePolicyRuleInput V) : Except NativeCommandPolicyError NativeCommandRule := do
  reject (input.dataSizes = [] ∨ argumentBytes < input.dataSizes.length ∨ ¬ input.dataSizes.IsChain (· < ·) ∨
    ∃ size ∈ input.dataSizes, size = 0 ∨ argumentBytes < size.toNat) {}
  let document ← (fromValue input.matcher).elim (.error {}) .ok
  let matcher ← bindMatcherForSizes document (input.dataSizes.map UInt8.toNat)
  return ⟨input.commandClass, input.commandId, input.dataSizes, matcher⟩

def nativeCommandPolicyFromRules (inputs : List (NativePolicyRuleInput V)) :
    Except NativeCommandPolicyError NativeCommandPolicy := do
  reject (inputs = [] ∨ 512 < inputs.length) {}
  let rules ← inputs.mapM (bindRule fromValue)
  return ⟨rules⟩

end Binding

def binarySearch (values : List UInt8) (value : UInt8) : Bool :=
  match h : values.drop (values.length / 2) with
  | [] => false
  | middle :: upper =>
    if value = middle then true
    else if value < middle then binarySearch (values.take (values.length / 2)) value
    else binarySearch upper value
termination_by values.length
decreasing_by
  all_goals
    have hlength := congrArg List.length h
    rw [length_drop, length_cons] at hlength
  · rw [length_take]
    omega
  · omega

/-- The same checks as `accepts`, with every index and every slice taken only where it exists. -/
def FieldMatcher.reads (arguments : List UInt8) : FieldMatcher → Bool
  | .oneOf offset values => arguments[offset]?.any (binarySearch values)
  | field => field.accepts arguments

def sliceFrom (arguments : List UInt8) (start stop : Nat) : Option (List UInt8) :=
  if start ≤ stop ∧ stop ≤ arguments.length then some (XorSum.slice arguments start stop) else none

def customFrameReads (rows columns : UInt8) (lengthMode : CustomFrameLengthMode) (arguments : List UInt8) :
    Option Bool :=
  if arguments.length < 8 then some false
  else do
    let first ← arguments[0]?
    let second ← arguments[1]?
    let row ← arguments[2]?
    if first ≠ 0 ∨ second ≠ 0 ∨ rows ≤ row then some false
    else
      let start := (← arguments[3]?).toNat
      let stop := (← arguments[4]?).toNat
      if stop < start ∨ columns.toNat ≤ stop then some false
      else
        let used := 5 + (stop - start + 1) * 3
        match lengthMode with
        | .exact => some (used = arguments.length)
        | .zeroPadded =>
          if arguments.length < used then some false
          else (sliceFrom arguments used arguments.length).map (·.all (· = 0))

def dpiStageReads (minimumDpi maximumDpi : Nat) (arguments : List UInt8) (index : Nat) : Option Bool := do
  let byte (position : Nat) : Option UInt8 := arguments[3 + index * 7 + position]?
  let x := fromBe16 (← byte 1) (← byte 2)
  let y := fromBe16 (← byte 3) (← byte 4)
  return decide ((← byte 0).toNat = index ∧ minimumDpi ≤ x ∧ x ≤ maximumDpi ∧ minimumDpi ≤ y ∧ y ≤ maximumDpi ∧
    (← byte 5) = 0 ∧ (← byte 6) = 0)

def dpiStagesReads (maximumStages : UInt8) (minimumDpi maximumDpi : Nat) (arguments : List UInt8) : Option Bool :=
  if arguments.length ≠ 38 then some false
  else do
    let first ← arguments[0]?
    let active ← arguments[1]?
    let count ← arguments[2]?
    if first ≠ 1 ∨ count = 0 ∨ maximumStages < count ∨ active = 0 ∨ count < active then some false
    else
      if ← (List.range count.toNat).allM (dpiStageReads minimumDpi maximumDpi arguments) then
        (sliceFrom arguments (3 + count.toNat * 7) arguments.length).map (·.all (· = 0))
      else some false

/-- Whether the arguments match, `none` where an index is out of range. -/
def NativeMatcher.reads (arguments : List UInt8) : NativeMatcher → Option Bool
  | .fields matchers => some (matchers.all (·.reads arguments))
  | .customFrame rows columns lengthMode => customFrameReads rows columns lengthMode arguments
  | .dpiStages maximumStages minimumDpi maximumDpi =>
    dpiStagesReads maximumStages minimumDpi maximumDpi arguments

/-- The policy's answer on a report, `none` where an index is out of range. -/
def NativeCommandPolicy.reads (policy : NativeCommandPolicy) (report : FeatureReport) : Option Bool :=
  let dataSize := report[5].toNat
  if report[0] ≠ 0 ∨ report[1] = 0 ∨ report[2] ≠ 0 ∨ report[3] ≠ 0 ∨ report[4] ≠ 0 ∨ report[89] ≠ 0 ∨
    report[88] ≠ reportCrc report ∨ dataSize = 0 ∨ argumentBytes < dataSize then some false
  else do
    let rest ← sliceFrom report.toList (8 + dataSize) 88
    if rest.any (· ≠ 0) then some false
    else
      let arguments ← sliceFrom report.toList 8 (8 + dataSize)
      policy.rules.anyM fun rule =>
        if binarySearch rule.dataSizes report[5] ∧ rule.commandClass = report[6] ∧ rule.commandId = report[7] then
          rule.matcher.reads arguments
        else some false

def FieldMatcher.covers (index : Nat) (field : FieldMatcher) : Bool :=
  field.offset ≤ index ∧ index < field.offset + field.width

/-- Every byte below the size lies in exactly one field, and no field reaches further. -/
structure Tiles (fields : List FieldMatcher) (dataSize : Nat) : Prop where
  within : ∀ field ∈ fields, field.offset + field.width ≤ dataSize
  once : ∀ index < dataSize, fields.countP (·.covers index) = 1

def coverage (covered : List Bool) (index : Nat) : Nat := (covered.getD index false).toNat

variable {dataSize index used : Nat} {field : FieldMatcher} {matcher : NativeMatcher}
  {dataSizes arguments : List UInt8} {policy : NativeCommandPolicy} {α : Type} {maximumStages : UInt8}
  {report : FeatureReport}

theorem coverField_ok {state after : List Bool × Option Nat} (h : coverField dataSize state field = .ok after)
    (hlength : state.1.length = dataSize) :
    after.1.length = dataSize ∧ field.offset + field.width ≤ dataSize ∧ ∀ index < dataSize,
      coverage after.1 index = coverage state.1 index + if field.covers index then 1 else 0 := by
  obtain ⟨_, _, h⟩ := bind_eq_ok h
  obtain ⟨_, hchecks, h⟩ := bind_eq_ok h
  have hchecks := reject_eq_ok hchecks
  cases h
  simp only [not_or, Nat.not_lt, Bool.not_eq_true] at hchecks
  obtain ⟨_, hwithin, hfree⟩ := hchecks
  refine ⟨by simp [fillCovered, hlength], hwithin, fun index hindex => ?_⟩
  have hlt : index < state.1.length := by omega
  have hafter : coverage (fillCovered state.1 field.offset (field.offset + field.width)) index =
      (state.1[index] || field.covers index).toNat := by
    simp [coverage, fillCovered, FieldMatcher.covers, hlt]
  have hbefore : coverage state.1 index = state.1[index].toNat := by
    simp [coverage, hlt]
  rw [hafter, hbefore]
  cases hcovers : field.covers index with
  | false => simp
  | true =>
    obtain ⟨hfrom, hto⟩ := of_decide_eq_true hcovers
    have hmem : state.1[index] ∈ (state.1.drop field.offset).take field.width := by
      refine mem_iff_getElem?.mpr ⟨index - field.offset, ?_⟩
      rw [getElem?_take_of_lt (by omega), getElem?_drop, Nat.add_sub_cancel' hfrom, getElem?_eq_getElem hlt]
    have hfalse : state.1[index] = false := Bool.eq_false_of_not_eq_true (any_eq_false.mp hfree _ hmem)
    simp [hfalse]

/-- What the marking loop leaves: each byte is marked as often as the fields cover it. -/
theorem coverFields_ok {fields : List FieldMatcher} {state after : List Bool × Option Nat}
    (h : fields.foldlM (coverField dataSize) state = .ok after) (hlength : state.1.length = dataSize) :
    after.1.length = dataSize ∧ (∀ field ∈ fields, field.offset + field.width ≤ dataSize) ∧
      ∀ index < dataSize, coverage after.1 index = coverage state.1 index + fields.countP (·.covers index) := by
  induction fields generalizing state with
  | nil =>
    cases h
    exact ⟨hlength, by simp, fun index _ => rfl⟩
  | cons field fields ih =>
    rw [foldlM_cons] at h
    obtain ⟨next, hnext, h⟩ := bind_eq_ok h
    obtain ⟨hnextLength, hfield, hcovered⟩ := coverField_ok hnext hlength
    obtain ⟨hafter, hfields, hcount⟩ := ih h hnextLength
    refine ⟨hafter, forall_mem_cons.mpr ⟨hfield, hfields⟩, fun index hindex => ?_⟩
    rw [hcount index hindex, hcovered index hindex, countP_cons]
    omega

/-- A list that is searched by halves is sorted. -/
def FieldMatcher.Searchable : FieldMatcher → Prop
  | .oneOf _ values => values.Pairwise (· < ·)
  | _ => True

theorem bindField_ok {document : FieldDocument} (h : bindField document = .ok field) : field.Searchable := by
  cases document with
  | oneOf offset values =>
    obtain ⟨_, hchecks, h⟩ := bind_eq_ok h
    have hchecks := reject_eq_ok hchecks
    cases h
    have hchain : values.IsChain (· < ·) := by
      by_contra hchain
      exact hchecks (.inr (.inr hchain))
    exact isChain_iff_pairwise.mp hchain
  | exact | u8Range | be16Range | rgb =>
    obtain ⟨_, _, h⟩ := bind_eq_ok h
    cases h
    trivial

theorem bindFields_ok {fields : List FieldDocument} (h : bindFields fields dataSize = .ok matcher) :
    ∃ bound, matcher = .fields bound ∧ Tiles bound dataSize ∧ ∀ field ∈ bound, field.Searchable := by
  obtain ⟨_, _, h⟩ := bind_eq_ok h
  obtain ⟨bound, hbound, h⟩ := bind_eq_ok h
  obtain ⟨state, hstate, h⟩ := bind_eq_ok h
  obtain ⟨_, hcomplete, h⟩ := bind_eq_ok h
  have hcomplete := reject_eq_ok hcomplete
  cases h
  obtain ⟨hlength, hwithin, hcount⟩ := coverFields_ok hstate (by simp)
  refine ⟨bound, rfl, ⟨hwithin, fun index hindex => ?_⟩, fun field hfield => ?_⟩
  · have hcovered : coverage state.1 index = coverage (List.replicate dataSize false) index +
        bound.countP (·.covers index) := hcount index hindex
    have hlt : index < state.1.length := hlength ▸ hindex
    have hmarked : state.1[index] = true := by
      by_contra hfalse
      exact hcomplete (any_eq_true.mpr ⟨_, getElem_mem hlt, by simp [hfalse]⟩)
    have hone : coverage state.1 index = 1 := by simp [coverage, hlt, hmarked]
    have hzero : coverage (List.replicate dataSize false) index = 0 := by simp [coverage, hindex]
    omega
  obtain ⟨document, _, hdocument⟩ := mapM_ok_mem hbound field hfield
  exact bindField_ok hdocument

/-- What the binding of a matcher ensures for its evaluation. -/
def NativeMatcher.Bound (dataSizes : List UInt8) : NativeMatcher → Prop
  | .fields matchers =>
    ∃ size, dataSizes = [size] ∧ Tiles matchers size.toNat ∧ ∀ field ∈ matchers, field.Searchable
  | .customFrame .. => True
  | .dpiStages maximumStages _ _ => maximumStages.toNat ≤ 5

theorem bindMatcherForSizes_ok {document : MatcherDocument}
    (h : bindMatcherForSizes document (dataSizes.map UInt8.toNat) = .ok matcher) : matcher.Bound dataSizes := by
  cases document with
  | fields fields =>
    match dataSizes, h with
    | [], h => cases h
    | [size], h =>
      obtain ⟨bound, hmatcher, htiles, hsearchable⟩ := bindFields_ok h
      subst hmatcher
      exact ⟨size, rfl, htiles, hsearchable⟩
    | _ :: _ :: _, h => cases h
  | customFrame rows columns lengthMode =>
    obtain ⟨_, _, h⟩ := bind_eq_ok h
    cases h
    trivial
  | dpiStages maximumStages minimumDpi maximumDpi =>
    obtain ⟨_, hchecks, h⟩ := bind_eq_ok h
    have hchecks := reject_eq_ok hchecks
    cases h
    have hmaximum : maximumStages ≤ 5 := by
      by_contra hmaximum
      exact hchecks (.inr (.inr (.inl (UInt8.not_le.mp hmaximum))))
    exact UInt8.le_iff_toNat_le.mp hmaximum

theorem bindRule_ok {V : Type} {fromValue : V → Option MatcherDocument} {input : NativePolicyRuleInput V}
    {rule : NativeCommandRule} (h : bindRule fromValue input = .ok rule) :
    rule.dataSizes.Pairwise (· < ·) ∧ rule.matcher.Bound rule.dataSizes := by
  obtain ⟨_, hchecks, h⟩ := bind_eq_ok h
  have hchecks := reject_eq_ok hchecks
  obtain ⟨document, _, h⟩ := bind_eq_ok h
  obtain ⟨matcher, hmatcher, h⟩ := bind_eq_ok h
  cases h
  have hchain : input.dataSizes.IsChain (· < ·) := by
    by_contra hchain
    exact hchecks (.inr (.inr (.inl hchain)))
  exact ⟨isChain_iff_pairwise.mp hchain, bindMatcherForSizes_ok hmatcher⟩

theorem nativeCommandPolicyFromRules_ok {V : Type} {fromValue : V → Option MatcherDocument}
    {inputs : List (NativePolicyRuleInput V)} (h : nativeCommandPolicyFromRules fromValue inputs = .ok policy) :
    ∀ rule ∈ policy.rules, rule.dataSizes.Pairwise (· < ·) ∧ rule.matcher.Bound rule.dataSizes := by
  obtain ⟨_, _, h⟩ := bind_eq_ok h
  obtain ⟨rules, hrules, h⟩ := bind_eq_ok h
  cases h
  intro rule hrule
  obtain ⟨input, _, hinput⟩ := mapM_ok_mem hrules rule hrule
  exact bindRule_ok hinput

theorem binarySearch_iff (values : List UInt8) (value : UInt8) :
    values.Pairwise (· < ·) → (binarySearch values value = true ↔ value ∈ values) := by
  fun_induction binarySearch values value with
  | case1 values hdrop =>
    intro _
    have hlength := congrArg List.length hdrop
    rw [length_drop, length_nil] at hlength
    have hnil : values = [] := eq_nil_of_length_eq_zero (by omega)
    simp [hnil]
  | case2 values upper hdrop =>
    intro _
    have hmem : value ∈ values.drop (values.length / 2) := by simp [hdrop]
    simp [mem_of_mem_drop hmem]
  | case3 values middle upper hdrop hne hlt ih =>
    intro hsorted
    have hsplit : values = values.take (values.length / 2) ++ middle :: upper := by
      rw [← hdrop, take_append_drop]
    rw [hsplit] at hsorted
    obtain ⟨htake, hrest, _⟩ := pairwise_append.mp hsorted
    have hupper : value ∉ upper := fun hmem =>
      absurd (UInt8.lt_trans hlt ((pairwise_cons.mp hrest).1 value hmem)) (UInt8.lt_irrefl value)
    have hmem : value ∈ values ↔ value ∈ values.take (values.length / 2) := by
      conv_lhs => rw [hsplit]
      simp [hne, hupper]
    rw [ih htake, hmem]
  | case4 values middle upper hdrop hne hlt ih =>
    intro hsorted
    have hsplit : values = values.take (values.length / 2) ++ middle :: upper := by
      rw [← hdrop, take_append_drop]
    rw [hsplit] at hsorted
    obtain ⟨_, hrest, hacross⟩ := pairwise_append.mp hsorted
    have hlower : value ∉ values.take (values.length / 2) := fun hmem =>
      hlt (hacross value hmem middle mem_cons_self)
    have hmem : value ∈ values ↔ value ∈ upper := by
      conv_lhs => rw [hsplit]
      simp [hne, hlower]
    rw [ih (pairwise_cons.mp hrest).2, hmem]

theorem FieldMatcher.reads_eq (h : field.Searchable) (arguments : List UInt8) :
    field.reads arguments = field.accepts arguments := by
  cases field with
  | oneOf offset values =>
    have hsearch : binarySearch values = fun value => decide (value ∈ values) := by
      funext value
      exact Bool.eq_iff_iff.mpr ((binarySearch_iff values value h).trans decide_eq_true_iff.symm)
    show arguments[offset]?.any (binarySearch values) = arguments[offset]?.any fun value => decide (value ∈ values)
    rw [hsearch]
  | exact | u8Range | be16Range | rgb => rfl

theorem getElem?_eq_getD (h : index < arguments.length) :
    arguments[index]? = some (arguments.getD index 0) := by
  simp [h]

theorem sliceFrom_length (h : used ≤ arguments.length) :
    sliceFrom arguments used arguments.length = some (arguments.drop used) := by
  have hall : (arguments.drop used).take (arguments.length - used) = arguments.drop used :=
    take_of_length_le (by simp)
  simp [sliceFrom, h, XorSum.slice, hall]

theorem allM_some {f : α → Option Bool} {p : α → Bool} {l : List α} (h : ∀ a ∈ l, f a = some (p a)) :
    l.allM f = some (l.all p) := by
  induction l with
  | nil => rfl
  | cons a l ih =>
    obtain ⟨hfirst, hrest⟩ := forall_mem_cons.mp h
    rw [allM_cons, hfirst, all_cons, ih hrest]
    cases p a <;> rfl

theorem anyM_some {f : α → Option Bool} {p : α → Bool} {l : List α} (h : ∀ a ∈ l, f a = some (p a)) :
    l.anyM f = some (l.any p) := by
  induction l with
  | nil => rfl
  | cons a l ih =>
    obtain ⟨hfirst, hrest⟩ := forall_mem_cons.mp h
    rw [anyM_cons, hfirst, any_cons, ih hrest]
    cases p a <;> rfl

theorem customFrameReads_eq (rows columns : UInt8) (lengthMode : CustomFrameLengthMode) (arguments : List UInt8) :
    customFrameReads rows columns lengthMode arguments =
      some (customFrameAccepts rows columns lengthMode arguments) := by
  unfold customFrameReads customFrameAccepts
  by_cases hlength : arguments.length < 8
  · simp [hlength, Nat.not_le.mpr hlength]
  have hbyte : ∀ index < 8, arguments[index]? = some (arguments.getD index 0) := fun index hindex =>
    getElem?_eq_getD (by omega)
  simp only [hlength, if_false, hbyte 0 (by omega), hbyte 1 (by omega), hbyte 2 (by omega), hbyte 3 (by omega),
    hbyte 4 (by omega), Option.bind_eq_bind, Option.bind_some]
  by_cases hhead : arguments.getD 0 0 ≠ 0 ∨ arguments.getD 1 0 ≠ 0 ∨ rows ≤ arguments.getD 2 0
  · rw [if_pos hhead]
    refine congrArg some (decide_eq_false fun haccepts => ?_).symm
    obtain ⟨_, hfirst, hsecond, hrow, _⟩ := haccepts
    obtain hbad | hbad | hbad := hhead
    · exact hbad hfirst
    · exact hbad hsecond
    · exact UInt8.not_le.mpr hrow hbad
  rw [if_neg hhead]
  simp only [not_or, ne_eq, not_not, UInt8.not_le] at hhead
  by_cases hspan : (arguments.getD 4 0).toNat < (arguments.getD 3 0).toNat ∨
      columns.toNat ≤ (arguments.getD 4 0).toNat
  · rw [if_pos hspan]
    refine congrArg some (decide_eq_false fun haccepts => ?_).symm
    obtain ⟨_, _, _, _, hstart, hstop, _⟩ := haccepts
    omega
  rw [if_neg hspan]
  have hstart : (arguments.getD 3 0).toNat ≤ (arguments.getD 4 0).toNat ∧
      (arguments.getD 4 0).toNat < columns.toNat := by omega
  cases lengthMode with
  | exact =>
    simp only [CustomFrameLengthMode.fits, hhead, hstart, Nat.not_lt.mp hlength, true_and, decide_eq_true_eq]
  | zeroPadded =>
    dsimp only
    split
    next hshort =>
      refine congrArg some (decide_eq_false fun haccepts => ?_).symm
      have hfits := haccepts.2.2.2.2.2.2
      simp only [CustomFrameLengthMode.fits, decide_eq_true_eq] at hfits
      omega
    next hfits =>
      rw [sliceFrom_length (Nat.not_lt.mp hfits)]
      simp only [CustomFrameLengthMode.fits, hhead, hstart, Nat.not_lt.mp hlength, Nat.not_lt.mp hfits, true_and,
        Option.map_some, Bool.decide_eq_true]

theorem dpiStageReads_eq (minimumDpi maximumDpi : Nat) (h : 3 + index * 7 + 6 < arguments.length) :
    dpiStageReads minimumDpi maximumDpi arguments index =
      some (dpiStageAccepts minimumDpi maximumDpi arguments index) := by
  have hbyte : ∀ position < 7, arguments[3 + index * 7 + position]? =
      some (arguments.getD (3 + index * 7 + position) 0) := fun position hposition => getElem?_eq_getD (by omega)
  simp only [dpiStageReads, dpiStageAccepts, hbyte 0 (by omega), hbyte 1 (by omega), hbyte 2 (by omega),
    hbyte 3 (by omega), hbyte 4 (by omega), hbyte 5 (by omega), hbyte 6 (by omega), Option.bind_eq_bind,
    Option.bind_some, Option.pure_def]

/-- At most five stages fit in the 38 bytes, so no stage is read past the end. -/
theorem dpiStagesReads_eq (h : maximumStages.toNat ≤ 5) (minimumDpi maximumDpi : Nat) (arguments : List UInt8) :
    dpiStagesReads maximumStages minimumDpi maximumDpi arguments =
      some (dpiStagesAccepts maximumStages minimumDpi maximumDpi arguments) := by
  unfold dpiStagesReads dpiStagesAccepts
  by_cases hlength : arguments.length = 38
  case neg => simp [hlength]
  have hbyte : ∀ index < 38, arguments[index]? = some (arguments.getD index 0) := fun index hindex =>
    getElem?_eq_getD (by omega)
  rw [if_neg (not_not.mpr hlength)]
  simp only [hbyte 0 (by omega), hbyte 1 (by omega), hbyte 2 (by omega), Option.bind_eq_bind, Option.bind_some]
  split
  next hhead =>
    refine congrArg some (decide_eq_false fun haccepts => ?_).symm
    obtain ⟨_, hfirst, hcount, hmost, hactive, hwithin, _⟩ := haccepts
    obtain hbad | hbad | hbad | hbad | hbad := hhead
    · exact hbad hfirst
    · exact hcount hbad
    · exact UInt8.not_le.mpr hbad hmost
    · exact hactive hbad
    · exact UInt8.not_le.mpr hbad hwithin
  next hhead =>
    simp only [not_or, ne_eq, not_not, UInt8.not_lt] at hhead
    obtain ⟨hfirst, hcount, hmost, hactive, hwithin⟩ := hhead
    have hfive : (arguments.getD 2 0).toNat ≤ 5 := Nat.le_trans (UInt8.le_iff_toNat_le.mp hmost) h
    have hstages : ∀ index ∈ List.range (arguments.getD 2 0).toNat,
        dpiStageReads minimumDpi maximumDpi arguments index =
          some (dpiStageAccepts minimumDpi maximumDpi arguments index) := by
      intro index hindex
      have hcounted := mem_range.mp hindex
      exact dpiStageReads_eq minimumDpi maximumDpi (by omega)
    rw [allM_some hstages, Option.bind_some, sliceFrom_length (by omega), Option.map_some]
    split
    next hall =>
      simp only [hlength, hfirst, hcount, hmost, hactive, hwithin, hall, ne_eq, not_false_eq_true, true_and,
        Bool.decide_eq_true]
    next hall => exact congrArg some (decide_eq_false fun haccepts => hall haccepts.2.2.2.2.2.2.1).symm

theorem NativeMatcher.reads_eq (h : matcher.Bound dataSizes) (arguments : List UInt8)
    : matcher.reads arguments = some (matcher.accepts arguments) := by
  cases matcher with
  | fields matchers =>
    obtain ⟨_, _, _, hsearchable⟩ := h
    refine congrArg some (Bool.eq_iff_iff.mpr ?_)
    show matchers.all (·.reads arguments) = true ↔ matchers.all (·.accepts arguments) = true
    simp only [all_eq_true]
    exact forall₂_congr fun field hfield => by rw [FieldMatcher.reads_eq (hsearchable field hfield)]
  | customFrame rows columns lengthMode => exact customFrameReads_eq rows columns lengthMode arguments
  | dpiStages maximumStages minimumDpi maximumDpi => exact dpiStagesReads_eq h minimumDpi maximumDpi arguments

/-- A complete request: its header bytes, its checksum, a data size and nothing after the data. -/
structure CompleteRequest (report : FeatureReport) : Prop where
  status : report[0] = 0
  transaction : report[1] ≠ 0
  remaining : report[2] = 0 ∧ report[3] = 0 ∧ report[4] = 0
  reserved : report[89] = 0
  checksum : report[88] = reportCrc report
  size : report[5].toNat ≠ 0 ∧ report[5].toNat ≤ argumentBytes
  rest : ∀ byte ∈ XorSum.slice report.toList (8 + report[5].toNat) 88, byte = 0

def reportArguments (report : FeatureReport) : List UInt8 := XorSum.slice report.toList 8 (8 + report[5].toNat)

/-- A rule speaks of the reports of its class, its command and one of its data sizes. -/
def NativeCommandRule.Names (rule : NativeCommandRule) (report : FeatureReport) : Prop :=
  report[5] ∈ rule.dataSizes ∧ rule.commandClass = report[6] ∧ rule.commandId = report[7]

theorem allows_iff (policy : NativeCommandPolicy) (report : FeatureReport) :
    policy.allows report = true ↔ CompleteRequest report ∧
      ∃ rule ∈ policy.rules, rule.Names report ∧ rule.matcher.accepts (reportArguments report) = true := by
  simp only [NativeCommandPolicy.allows, decide_eq_true_eq, all_eq_true, any_eq_true]
  constructor
  · rintro ⟨h0, h1, h2, h3, h4, h89, h88, hsize, hmost, hrest, rule, hrule, hsizes, hclass, hcommand, haccepts⟩
    have hcomplete : CompleteRequest report := ⟨h0, h1, ⟨h2, h3, h4⟩, h89, h88, ⟨hsize, hmost⟩, hrest⟩
    exact ⟨hcomplete, rule, hrule, ⟨hsizes, hclass, hcommand⟩, haccepts⟩
  rintro ⟨hcomplete, rule, hrule, ⟨hsizes, hclass, hcommand⟩, haccepts⟩
  obtain ⟨h0, h1, ⟨h2, h3, h4⟩, h89, h88, ⟨hsize, hmost⟩, hrest⟩ := hcomplete
  exact ⟨h0, h1, h2, h3, h4, h89, h88, hsize, hmost, hrest, rule, hrule, hsizes, hclass, hcommand, haccepts⟩

theorem sliceFrom_report (report : FeatureReport) {start stop : Nat} (h : start ≤ stop) (hstop : stop ≤ 90) :
    sliceFrom report.toList start stop = some (XorSum.slice report.toList start stop) := by
  simp [sliceFrom, h, hstop]

/-- Under bound rules no index is out of range, and the answer is that of `allows`. -/
theorem NativeCommandPolicy.reads_eq
    (h : ∀ rule ∈ policy.rules, rule.dataSizes.Pairwise (· < ·) ∧ rule.matcher.Bound rule.dataSizes)
    (report : FeatureReport) :
    policy.reads report = some (policy.allows report) := by
  have hfails : ¬ CompleteRequest report → some false = some (policy.allows report) := fun hcomplete =>
    congrArg some (Bool.eq_false_iff.mpr fun hallows => hcomplete ((allows_iff policy report).mp hallows).1).symm
  unfold NativeCommandPolicy.reads
  dsimp only
  split
  next hhead =>
    refine hfails fun hcomplete => ?_
    obtain ⟨h0, h1, ⟨h2, h3, h4⟩, h89, h88, ⟨hsize, hmost⟩, _⟩ := hcomplete
    have hlarge := Nat.not_lt.mpr hmost
    simp only [h0, h1, h2, h3, h4, h89, h88, hsize, hlarge, ne_eq, not_true_eq_false, or_self] at hhead
  next hhead =>
    simp only [not_or, ne_eq, not_not, Nat.not_lt] at hhead
    obtain ⟨h0, h1, h2, h3, h4, h89, h88, hsize, hmost⟩ := hhead
    have hwithin : report[5].toNat ≤ 80 := hmost
    rw [sliceFrom_report report (by omega) (by omega), sliceFrom_report report (by omega) (by omega)]
    simp only [Option.bind_eq_bind, Option.bind_some]
    split
    next hrest =>
      refine hfails fun hcomplete => ?_
      obtain ⟨byte, hbyte, hne⟩ := any_eq_true.mp hrest
      exact of_decide_eq_true hne (hcomplete.rest byte hbyte)
    next hrest =>
      have hrest : ∀ byte ∈ XorSum.slice report.toList (8 + report[5].toNat) 88, byte = 0 := by
        intro byte hbyte
        by_contra hne
        exact hrest (any_eq_true.mpr ⟨byte, hbyte, decide_eq_true hne⟩)
      have hcomplete : CompleteRequest report := ⟨h0, h1, ⟨h2, h3, h4⟩, h89, h88, ⟨hsize, hmost⟩, hrest⟩
      have hrules : ∀ rule ∈ policy.rules,
          (if binarySearch rule.dataSizes report[5] ∧ rule.commandClass = report[6] ∧
              rule.commandId = report[7] then rule.matcher.reads (reportArguments report) else some false) =
          some (decide (binarySearch rule.dataSizes report[5] ∧ rule.commandClass = report[6] ∧
            rule.commandId = report[7] ∧ rule.matcher.accepts (reportArguments report))) := by
        intro rule hrule
        rw [NativeMatcher.reads_eq (h rule hrule).2]
        split <;> simp_all
      refine (anyM_some hrules).trans (congrArg some (Bool.eq_iff_iff.mpr ?_))
      rw [allows_iff, any_eq_true]
      simp only [hcomplete, true_and, decide_eq_true_eq, NativeCommandRule.Names, and_assoc]
      refine exists_congr fun rule => and_congr_right fun hrule => ?_
      rw [binarySearch_iff _ _ (h rule hrule).1]

/-- What a field says of one of its bytes; the bytes of an `rgb` field are those of whole pixels. -/
def FieldMatcher.Governs (arguments : List UInt8) (index : Nat) : FieldMatcher → Prop
  | .exact offset bytes => arguments[index]? = bytes[index - offset]?
  | .oneOf _ values => ∃ value ∈ values, arguments[index]? = some value
  | .u8Range _ minimum maximum => ∃ value, arguments[index]? = some value ∧ minimum ≤ value ∧ value ≤ maximum
  | .be16Range offset minimum maximum => ∃ high low, arguments[offset]? = some high ∧
      arguments[offset + 1]? = some low ∧ minimum ≤ fromBe16 high low ∧ fromBe16 high low ≤ maximum
  | .rgb offset pixels => ∃ pixel < pixels, offset + pixel * 3 ≤ index ∧ index < offset + pixel * 3 + 3

def customFrameGoverns (rows columns : UInt8) (arguments : List UInt8) (index : Nat) : Prop :=
  let byte := arguments.getD index 0
  let start := (arguments.getD 3 0).toNat
  let stop := (arguments.getD 4 0).toNat
  index < 2 ∧ byte = 0 ∨ index = 2 ∧ byte < rows ∨ index = 3 ∧ byte.toNat ≤ stop ∨ index = 4 ∧ byte < columns ∨
    (∃ column, start ≤ column ∧ column ≤ stop ∧ column < columns.toNat ∧
      5 + (column - start) * 3 ≤ index ∧ index < 5 + (column - start) * 3 + 3) ∨
    5 + (stop - start + 1) * 3 ≤ index ∧ byte = 0

def dpiStagesGoverns (maximumStages : UInt8) (minimumDpi maximumDpi : Nat) (arguments : List UInt8)
    (index : Nat) : Prop :=
  let byte := arguments.getD index 0
  let count := arguments.getD 2 0
  index = 0 ∧ byte = 1 ∨ index = 1 ∧ byte ≠ 0 ∧ byte ≤ count ∨ index = 2 ∧ byte ≠ 0 ∧ byte ≤ maximumStages ∨
    (∃ stage < count.toNat, 3 + stage * 7 ≤ index ∧ index < 3 + (stage + 1) * 7 ∧
      dpiStageAccepts minimumDpi maximumDpi arguments stage = true) ∨
    3 + count.toNat * 7 ≤ index ∧ byte = 0

def NativeMatcher.Governs (arguments : List UInt8) (index : Nat) : NativeMatcher → Prop
  | .fields matchers => ∃ field ∈ matchers, field.covers index = true ∧ field.Governs arguments index
  | .customFrame rows columns _ => customFrameGoverns rows columns arguments index
  | .dpiStages maximumStages minimumDpi maximumDpi =>
    dpiStagesGoverns maximumStages minimumDpi maximumDpi arguments index

theorem getRange_some {bytes : List UInt8} {offset width : Nat}
    (h : getRange arguments offset width = some bytes) {position : Nat} (hposition : position < width) :
    arguments[offset + position]? = bytes[position]? := by
  unfold getRange at h
  split at h
  · cases h
    rw [getElem?_take_of_lt hposition, getElem?_drop]
  · cases h

theorem FieldMatcher.governs (h : field.accepts arguments = true) (hcovers : field.covers index = true)
    : field.Governs arguments index := by
  obtain ⟨hfrom, hto⟩ := of_decide_eq_true hcovers
  cases field with
  | exact offset bytes =>
    change offset ≤ index at hfrom
    change index < offset + bytes.length at hto
    have hrange := getRange_some (of_decide_eq_true h) (by omega : index - offset < bytes.length)
    rw [Nat.add_sub_cancel' hfrom] at hrange
    exact hrange
  | oneOf offset values =>
    have hindex : offset = index := Nat.le_antisymm hfrom (Nat.le_of_lt_succ hto)
    subst hindex
    obtain ⟨value, hvalue, hmem⟩ := (Option.any_eq_true _ _).mp h
    exact ⟨value, of_decide_eq_true hmem, hvalue⟩
  | u8Range offset minimum maximum =>
    have hindex : offset = index := Nat.le_antisymm hfrom (Nat.le_of_lt_succ hto)
    subst hindex
    obtain ⟨value, hvalue, hbetween⟩ := (Option.any_eq_true _ _).mp h
    exact ⟨value, hvalue, of_decide_eq_true hbetween⟩
  | be16Range offset minimum maximum =>
    change (match getRange arguments offset 2 with
      | some [high, low] => decide (minimum ≤ fromBe16 high low ∧ fromBe16 high low ≤ maximum)
      | _ => false) = true at h
    split at h
    next high low hrange =>
      obtain ⟨hminimum, hmaximum⟩ := of_decide_eq_true h
      exact ⟨high, low, getRange_some hrange (by omega : 0 < 2), getRange_some hrange (by omega : 1 < 2), hminimum,
        hmaximum⟩
    · cases h
  | rgb offset pixels =>
    change offset ≤ index at hfrom
    change index < offset + pixels * 3 at hto
    exact ⟨(index - offset) / 3, by omega, by omega, by omega⟩

theorem getD_eq_zero (h : (arguments.drop used).all (· = 0) = true) (hused : used ≤ index)
    : arguments.getD index 0 = 0 := by
  by_cases hindex : index < arguments.length
  · have hmem : arguments[index] ∈ arguments.drop used := by
      refine mem_iff_getElem?.mpr ⟨index - used, ?_⟩
      rw [getElem?_drop, Nat.add_sub_cancel' hused, getElem?_eq_getElem hindex]
    have hzero := of_decide_eq_true (all_eq_true.mp h _ hmem)
    simp [hindex, hzero]
  · simp [Nat.not_lt.mp hindex]

theorem customFrame_governs {rows columns : UInt8} {lengthMode : CustomFrameLengthMode}
    (h : customFrameAccepts rows columns lengthMode arguments = true) (hindex : index < arguments.length)
    : customFrameGoverns rows columns arguments index := by
  simp only [customFrameAccepts, decide_eq_true_eq] at h
  obtain ⟨_, hfirst, hsecond, hrow, hstart, hstop, hfits⟩ := h
  have hcolumn : arguments.getD 4 0 < columns := UInt8.lt_iff_toNat_lt.mpr hstop
  dsimp only [customFrameGoverns]
  by_cases hheader : index < 5
  · interval_cases index
    · exact .inl ⟨by omega, hfirst⟩
    · exact .inl ⟨by omega, hsecond⟩
    · exact .inr (.inl ⟨rfl, hrow⟩)
    · exact .inr (.inr (.inl ⟨rfl, hstart⟩))
    · exact .inr (.inr (.inr (.inl ⟨rfl, hcolumn⟩)))
  refine .inr (.inr (.inr (.inr ?_)))
  by_cases hspan : index < 5 + ((arguments.getD 4 0).toNat - (arguments.getD 3 0).toNat + 1) * 3
  · refine .inl ⟨(arguments.getD 3 0).toNat + (index - 5) / 3, ?_, ?_, ?_, ?_, ?_⟩ <;> omega
  refine .inr ⟨Nat.not_lt.mp hspan, ?_⟩
  cases lengthMode with
  | exact => exact absurd hindex (of_decide_eq_true hfits ▸ hspan)
  | zeroPadded => exact getD_eq_zero (of_decide_eq_true hfits).2 (Nat.not_lt.mp hspan)

theorem dpiStages_governs {minimumDpi maximumDpi : Nat}
    (h : dpiStagesAccepts maximumStages minimumDpi maximumDpi arguments = true) (index : Nat) :
    dpiStagesGoverns maximumStages minimumDpi maximumDpi arguments index := by
  simp only [dpiStagesAccepts, decide_eq_true_eq] at h
  obtain ⟨_, hfirst, hcount, hmost, hactive, hwithin, hstages, hzeros⟩ := h
  dsimp only [dpiStagesGoverns]
  by_cases hheader : index < 3
  · interval_cases index
    · exact .inl ⟨rfl, hfirst⟩
    · exact .inr (.inl ⟨rfl, hactive, hwithin⟩)
    · exact .inr (.inr (.inl ⟨rfl, hcount, hmost⟩))
  refine .inr (.inr (.inr ?_))
  by_cases hused : index < 3 + (arguments.getD 2 0).toNat * 7
  · have hstage : (index - 3) / 7 < (arguments.getD 2 0).toNat := by omega
    exact .inl ⟨(index - 3) / 7, hstage, by omega, by omega, all_eq_true.mp hstages _ (mem_range.mpr hstage)⟩
  · exact .inr ⟨Nat.not_lt.mp hused, getD_eq_zero hzeros (Nat.not_lt.mp hused)⟩

theorem reportArguments_length (h : CompleteRequest report) :
    (reportArguments report).length = report[5].toNat := by
  have hmost : report[5].toNat ≤ 80 := h.size.2
  simp [reportArguments, XorSum.slice]
  omega

/-- Every data byte of an accepted report is constrained by the rule that accepts it, or is a colour byte. -/
theorem NativeMatcher.governs (hbound : matcher.Bound dataSizes) (hcomplete : CompleteRequest report)
    (hsize : report[5] ∈ dataSizes) (h : matcher.accepts (reportArguments report) = true)
    (hindex : index < report[5].toNat) :
    matcher.Governs (reportArguments report) index := by
  cases matcher with
  | fields matchers =>
    obtain ⟨size, hsizes, htiles, _⟩ := hbound
    subst hsizes
    rw [mem_singleton.mp hsize] at hindex
    have hcovered : 0 < matchers.countP (·.covers index) := by
      rw [htiles.once index hindex]
      exact Nat.one_pos
    obtain ⟨field, hfield, hcovers⟩ := countP_pos_iff.mp hcovered
    exact ⟨field, hfield, hcovers, FieldMatcher.governs (all_eq_true.mp h field hfield) hcovers⟩
  | customFrame rows columns lengthMode =>
    exact customFrame_governs h (by rw [reportArguments_length hcomplete]; exact hindex)
  | dpiStages maximumStages minimumDpi maximumDpi => exact dpiStages_governs h index

/-- The fields of an accepted rule tile its data, no report makes the policy read out of range, and an allowed
report holds nothing but what its rule names, colours within its geometry, and zeros. -/
theorem command_policy_sound {V : Type} (fromValue : V → Option MatcherDocument)
    {inputs : List (NativePolicyRuleInput V)} {policy : NativeCommandPolicy}
    (h : nativeCommandPolicyFromRules fromValue inputs = .ok policy) :
    (∀ rule ∈ policy.rules, ∀ matchers, rule.matcher = .fields matchers →
      ∃ size, rule.dataSizes = [size] ∧ Tiles matchers size.toNat) ∧
    ∀ report : FeatureReport, policy.reads report = some (policy.allows report) ∧
      (policy.allows report = true ↔ CompleteRequest report ∧
        ∃ rule ∈ policy.rules, rule.Names report ∧ rule.matcher.accepts (reportArguments report) = true) ∧
      ∀ rule ∈ policy.rules, CompleteRequest report → rule.Names report →
        rule.matcher.accepts (reportArguments report) = true →
        ∀ index < report[5].toNat, rule.matcher.Governs (reportArguments report) index := by
  have hbound := nativeCommandPolicyFromRules_ok h
  refine ⟨fun rule hrule matchers hmatcher => ?_, fun report => ⟨NativeCommandPolicy.reads_eq hbound report,
    allows_iff policy report, fun rule hrule hcomplete hnames haccepts index hindex => ?_⟩⟩
  · have hrule := (hbound rule hrule).2
    rw [hmatcher] at hrule
    obtain ⟨size, hsizes, htiles, _⟩ := hrule
    exact ⟨size, hsizes, htiles⟩
  · exact NativeMatcher.governs (hbound rule hrule).2 hcomplete hnames.1 haccepts hindex

def frameInputs : List (NativePolicyRuleInput MatcherDocument) :=
  [⟨0x0f, 0x04, [3], .fields [.exact 0 [1, 5], .u8Range 2 0 255]⟩, ⟨0x0f, 0x03, [71], .customFrame 6 17 none⟩,
    ⟨0x04, 0x06, [38], .dpiStages 5 100 35000⟩]

def framePolicy : NativeCommandPolicy :=
  ⟨[⟨0x0f, 0x04, [3], .fields [.exact 0 [1, 5], .u8Range 2 0 255]⟩,
    ⟨0x0f, 0x03, [71], .customFrame 6 17 .zeroPadded⟩, ⟨0x04, 0x06, [38], .dpiStages 5 100 35000⟩]⟩

theorem command_policy_sound_frames : nativeCommandPolicyFromRules some frameInputs = .ok framePolicy ∧
    ∀ report, framePolicy.reads report = some (framePolicy.allows report) := by
  have hpolicy : nativeCommandPolicyFromRules some frameInputs = .ok framePolicy := rfl
  exact ⟨hpolicy, fun report => ((command_policy_sound some hpolicy).2 report).1⟩

end NativeCommand

open NativeCommand

namespace UhidRelay

inductive UhidEvent where
  | start (flags : UInt64)
  | stop
  | open
  | close
  | getReport (id : UInt32) (reportNumber reportType : UInt8)
  | setReport (id : UInt32) (reportNumber reportType : UInt8) (data : List UInt8)
  | output
  | unknown (eventType : UInt32)
deriving DecidableEq

/-- The replies to requests. -/
inductive UhidReply where
  | getReport (id : UInt32) (data : Option (List UInt8))
  | setReport (id : UInt32) (success : Bool)
deriving DecidableEq

inductive TransportEnvelopeKind where
  | notSent | mayHaveBeenSent

def transportEnvelopeMagic : List UInt8 := [0x48, 0x46, 0x58, 0x4e, 0x45, 0x52, 0x52, 0x31]

def TransportEnvelopeKind.code : TransportEnvelopeKind → UInt8
  | .notSent => 1
  | .mayHaveBeenSent => 2

def encodeTransportEnvelope (kind : TransportEnvelopeKind) : FeatureReport :=
  ⟨(transportEnvelopeMagic ++ [1, kind.code] ++ List.replicate 78 0 ++ [0x5a, 0xa5]).toArray, by
    cases kind <;> rfl⟩

def isFeatureRequest (reportNumber reportType : UInt8) : Bool := reportNumber = 0 ∧ reportType = 0

inductive BridgeExchangeFailure where
  | missingRouteAuthority | requestEncoding | timeoutEncoding | leaseConflict | leaseRejected
  | leaseSdk | prepareSdk | transactSdk | transportNotSent | transportMayHaveBeenSent
  | responseEncoding
deriving DecidableEq

inductive BridgeExchangeResult where
  | matchedResponse (response : FeatureReport)
  | notSent (failure : BridgeExchangeFailure)
  | mayHaveBeenSent (failure : BridgeExchangeFailure)
deriving DecidableEq

class BridgeExchange (B : Type) where
  exchange : FeatureReport → B → BridgeExchangeResult × B

inductive FeatureEndpointState where
  | created | started | stopped
deriving DecidableEq

inductive EndpointError where
  | invalidState | pendingResponse | invalidFeatureRequest

inductive BatteryExchangeDiagnostic where
  | matched (transactionId replyTransactionId status rawValue : UInt8) (accepted : Bool) (attempts : Nat)
  | notSent (transactionId : UInt8) (attempts : Nat)
  | mayHaveBeenSent (transactionId : UInt8) (attempts : Nat)

inductive Admission where
  | reply (reply : Option UhidReply)
  | set (reply : UhidReply) (report : FeatureReport)
deriving DecidableEq

inductive RetainedRouteDeparture where
  | none | awaitingGet | replyIssued
deriving DecidableEq

def sourceBusyRetryMaximumAttempts : Nat := 5

def razerStatusBusy : UInt8 := 0x01
def razerStatusSuccess : UInt8 := 0x02
def razerStatusTimeout : UInt8 := 0x04

def isBatteryRequest (report : FeatureReport) : Bool :=
  report[5] = 2 ∧ report[6] = 0x07 ∧ report[7] = 0x80 ∧ report[8] = 0 ∧ report[9] = 0

def isQueryRequest (report : FeatureReport) : Bool := report[7] &&& 0x80 ≠ 0

def replyIdentityMatches (request response : FeatureReport) : Bool :=
  response[1] = request[1] ∧ response[6] = request[6] ∧ response[7] = request[7]

def queryReplyAccepted (request response : FeatureReport) : Bool :=
  response[0] = razerStatusSuccess ∧ replyIdentityMatches request response

structure FeatureEndpoint (B : Type) where
  bridge : B
  commandPolicy : NativeCommandPolicy
  state : FeatureEndpointState
  pendingResponse : Option FeatureReport
  pendingBatteryDiagnostic : Option BatteryExchangeDiagnostic
  retainedRouteDeparture : RetainedRouteDeparture
  virtualDeviceMode : UInt8 × UInt8

def toReport (data : List UInt8) : Option FeatureReport :=
  if h : data.length = 90 then some ⟨data.toArray, h⟩ else none

/-- An answer that is asked for again while attempts are left. -/
def retried (report : FeatureReport) : BridgeExchangeResult → Bool
  | .matchedResponse response => response[0] = razerStatusBusy ∨ ! replyIdentityMatches report response
  | _ => false

section Exchanges

variable {B : Type} [BridgeExchange B]

/-- The given attempt and those that may follow it. -/
def exchangeFrom (report : FeatureReport) : Nat → Nat → B → (BridgeExchangeResult × Nat) × B
  | 0, attempt, bridge =>
    let answer := BridgeExchange.exchange report bridge
    ((answer.1, attempt), answer.2)
  | further + 1, attempt, bridge =>
    let answer := BridgeExchange.exchange report bridge
    if retried report answer.1 then exchangeFrom report further (attempt + 1) answer.2
    else ((answer.1, attempt), answer.2)

def maximumAttempts (report : FeatureReport) : Nat :=
  if isQueryRequest report then sourceBusyRetryMaximumAttempts else 1

def exchange (report : FeatureReport) (bridge : B) : (BridgeExchangeResult × Nat) × B :=
  exchangeFrom report (maximumAttempts report - 1) 1 bridge

end Exchanges

def batteryDiagnostic (report : FeatureReport) (attempts : Nat) :
    BridgeExchangeResult → BatteryExchangeDiagnostic
  | .matchedResponse response =>
    .matched report[1] response[1] response[0] response[9] (queryReplyAccepted report response) attempts
  | .notSent _ => .notSent report[1] attempts
  | .mayHaveBeenSent _ => .mayHaveBeenSent report[1] attempts

/-- What the next GET is given. -/
def heldResponse (report : FeatureReport) : BridgeExchangeResult → FeatureReport
  | .matchedResponse response =>
    if ! isQueryRequest report ∨ queryReplyAccepted report response then response
    else encodeTransportEnvelope .mayHaveBeenSent
  | .notSent _ => encodeTransportEnvelope .notSent
  | .mayHaveBeenSent _ => encodeTransportEnvelope .mayHaveBeenSent

/-- A retained receiver route can outlive a powered-off child. -/
def departs : BridgeExchangeResult → Bool
  | .matchedResponse response => response[0] = razerStatusTimeout
  | _ => false

def deviceModeResponse (request : FeatureReport) (mode : UInt8 × UInt8) : FeatureReport :=
  let response := ((request.set 0 0x02).set 8 mode.1).set 9 mode.2
  response.set 88 (reportCrc response)

namespace FeatureEndpoint

variable {B : Type}

def new (bridge : B) (commandPolicy : NativeCommandPolicy) : FeatureEndpoint B where
  bridge := bridge
  commandPolicy := commandPolicy
  state := .created
  pendingResponse := none
  pendingBatteryDiagnostic := none
  retainedRouteDeparture := .none
  virtualDeviceMode := (0, 0)

def prepareWithdrawal (endpoint : FeatureEndpoint B) : FeatureEndpoint B :=
  { endpoint with
    state := .stopped
    pendingResponse := none
    pendingBatteryDiagnostic := none
    retainedRouteDeparture := .none
    virtualDeviceMode := (0, 0) }

def virtualizedResponse (endpoint : FeatureEndpoint B) (request : FeatureReport) :
    Option FeatureReport × FeatureEndpoint B :=
  if request[5] ≠ 2 ∨ request[6] ≠ 0 then
    (none, endpoint)
  else if request[7] = 0x04 then
    (some (deviceModeResponse request (request[8], request[9])),
      { endpoint with virtualDeviceMode := (request[8], request[9]) })
  else if request[7] = 0x84 then
    (some (deviceModeResponse request endpoint.virtualDeviceMode), endpoint)
  else
    (none, endpoint)

def admitSet (endpoint : FeatureEndpoint B) (id : UInt32) (reportNumber reportType : UInt8)
    (data : List UInt8) : Admission :=
  match toReport data with
  | none => .reply (some (.setReport id false))
  | some report =>
    if endpoint.state ≠ .started ∨ isFeatureRequest reportNumber reportType = false ∨
        endpoint.pendingResponse.isSome ∨ endpoint.retainedRouteDeparture ≠ .none ∨
        endpoint.commandPolicy.allows report = false then
      .reply (some (.setReport id false))
    else
      .set (.setReport id true) report

def handleGet (endpoint : FeatureEndpoint B) (id : UInt32) (reportNumber reportType : UInt8) :
    UhidReply × FeatureEndpoint B :=
  if endpoint.state ≠ .started ∨ isFeatureRequest reportNumber reportType = false then
    (.getReport id none, endpoint)
  else
    (.getReport id (endpoint.pendingResponse.map (·.toList)),
      { endpoint with
        pendingResponse := none
        retainedRouteDeparture :=
          if endpoint.pendingResponse.isSome ∧ endpoint.retainedRouteDeparture = .awaitingGet then
            .replyIssued
          else endpoint.retainedRouteDeparture })

/-- Admits a decoded UHID event, deferring an accepted SET's exchange. -/
def admitEvent (endpoint : FeatureEndpoint B) : UhidEvent → Except EndpointError Admission × FeatureEndpoint B
  | .start flags =>
    if flags &&& 0x04 ≠ 0 then (.error .invalidFeatureRequest, endpoint)
    else (.ok (.reply none), { endpoint with state := .started })
  | .stop => (.ok (.reply none), endpoint.prepareWithdrawal)
  | .open => (.ok (.reply none), endpoint)
  | .close => (.ok (.reply none), endpoint)
  | .output => (.ok (.reply none), endpoint)
  | .unknown _ => (.ok (.reply none), endpoint)
  | .setReport id reportNumber reportType data =>
    (.ok (endpoint.admitSet id reportNumber reportType data), endpoint)
  | .getReport id reportNumber reportType =>
    let (reply, endpoint) := endpoint.handleGet id reportNumber reportType
    (.ok (.reply (some reply)), endpoint)

variable [BridgeExchange B]

/-- Runs the exchange of an admitted SET and holds its response, or its transport-failure envelope, for the next GET. -/
def completeSet (report : FeatureReport) (endpoint : FeatureEndpoint B) : FeatureEndpoint B :=
  match endpoint.virtualizedResponse report with
  | (some response, endpoint) => { endpoint with pendingResponse := some response }
  | (none, endpoint) =>
    let ((result, attempts), bridge) := exchange report endpoint.bridge
    { endpoint with
      bridge := bridge
      pendingBatteryDiagnostic :=
        if isBatteryRequest report then some (batteryDiagnostic report attempts result)
        else endpoint.pendingBatteryDiagnostic
      retainedRouteDeparture :=
        if departs result then .awaitingGet else endpoint.retainedRouteDeparture
      pendingResponse := some (heldResponse report result) }

def handle (endpoint : FeatureEndpoint B) (event : UhidEvent) :
    Except EndpointError (Option UhidReply) × FeatureEndpoint B :=
  match endpoint.admitEvent event with
  | (.error error, endpoint) => (.error error, endpoint)
  | (.ok (.reply reply), endpoint) => (.ok reply, endpoint)
  | (.ok (.set reply report), endpoint) => (.ok (some reply), endpoint.completeSet report)

end FeatureEndpoint

open FeatureEndpoint

/-- A bridge with the reports it was given and the answers it gave since the record was cleared. -/
structure Recorded (B : Type) where
  bridge : B
  exchanges : List (FeatureReport × BridgeExchangeResult)

instance {B : Type} [BridgeExchange B] : BridgeExchange (Recorded B) where
  exchange report recorded :=
    let answer := BridgeExchange.exchange report recorded.bridge
    (answer.1, ⟨answer.2, recorded.exchanges ++ [(report, answer.1)]⟩)

structure Observed where
  event : UhidEvent
  answer : Except EndpointError (Option UhidReply)
  exchanges : List (FeatureReport × BridgeExchangeResult)

def clearRequests {B : Type} (endpoint : FeatureEndpoint (Recorded B)) : FeatureEndpoint (Recorded B) :=
  { endpoint with bridge := ⟨endpoint.bridge.bridge, []⟩ }

def observe {B : Type} [BridgeExchange B] (endpoint : FeatureEndpoint (Recorded B)) (event : UhidEvent) :
    Observed × FeatureEndpoint (Recorded B) :=
  let (answer, after) := (clearRequests endpoint).handle event
  (⟨event, answer, after.bridge.exchanges⟩, after)

/-- The runs of an endpoint with all that happened, the newest first. -/
inductive EndpointReach {B : Type} [BridgeExchange B] (bridge : B) (policy : NativeCommand.NativeCommandPolicy) :
    List Observed → FeatureEndpoint (Recorded B) → Prop where
  | start : EndpointReach bridge policy [] (.new ⟨bridge, []⟩ policy)
  | step {history : List Observed} {endpoint : FeatureEndpoint (Recorded B)}
      (h : EndpointReach bridge policy history endpoint) (event : UhidEvent) :
      EndpointReach bridge policy ((observe endpoint event).1 :: history) (observe endpoint event).2

namespace Observed

def requests (observed : Observed) : List FeatureReport := observed.exchanges.map (·.1)

def withdraws (observed : Observed) : Bool := observed.event = .stop

def accepted (observed : Observed) : Option FeatureReport :=
  match observed.event, observed.answer with
  | .setReport _ _ _ data, .ok (some (.setReport _ true)) => toReport data
  | _, _ => none

def returned (observed : Observed) : Option (List UInt8) :=
  match observed.answer with
  | .ok (some (.getReport _ data)) => data
  | _ => none

end Observed

/-- The most recent accepted SET, if no GET returned its response and no stop withdrew it. -/
def openSet : List Observed → Option FeatureReport
  | [] => none
  | observed :: history =>
    if observed.withdraws ∨ observed.returned.isSome then none
    else observed.accepted <|> openSet history

/-- The last answer of the bridge to the most recent accepted SET, of those that reach it. -/
def openAnswer : List Observed → Option BridgeExchangeResult
  | [] => none
  | observed :: history =>
    if observed.accepted.isSome then (observed.exchanges.getLast?).map (·.2) else openAnswer history

def isDeviceModeWrite (report : FeatureReport) : Bool := report[5] = 2 ∧ report[6] = 0 ∧ report[7] = 0x04

def isDeviceModeRead (report : FeatureReport) : Bool := report[5] = 2 ∧ report[6] = 0 ∧ report[7] = 0x84

def deviceMode : List Observed → UInt8 × UInt8
  | [] => (0, 0)
  | observed :: history =>
    if observed.withdraws then (0, 0)
    else
      match observed.accepted with
      | some report => if isDeviceModeWrite report then (report[8], report[9]) else deviceMode history
      | none => deviceMode history

/-- What is returned for a report: the bridge's last answer, as the endpoint holds it, unless the report is about the
device mode, which is then the given one. -/
structure Answers (mode : UInt8 × UInt8) (answer : Option BridgeExchangeResult) (report response : FeatureReport) :
    Prop where
  forwarded : answer.isSome = ! (isDeviceModeWrite report || isDeviceModeRead report)
  response : response = (answer.map (heldResponse report)).getD (deviceModeResponse report mode)

structure Follows {B : Type} (policy : NativeCommand.NativeCommandPolicy) (history : List Observed)
    (endpoint : FeatureEndpoint (Recorded B)) : Prop where
  policy : endpoint.commandPolicy = policy
  pending : Option.Rel (Answers (deviceMode history) (openAnswer history)) (openSet history) endpoint.pendingResponse
  mode : endpoint.virtualDeviceMode = deviceMode history

variable {report : FeatureReport}

section Responses

variable (request : FeatureReport)

theorem deviceModeResponse_head (mode : UInt8 × UInt8) :
    (deviceModeResponse request mode)[0] = razerStatusSuccess ∧
      (deviceModeResponse request mode)[1] = request[1] ∧
      (deviceModeResponse request mode)[6] = request[6] ∧
      (deviceModeResponse request mode)[7] = request[7] ∧
      (deviceModeResponse request mode)[8] = mode.1 ∧ (deviceModeResponse request mode)[9] = mode.2 := by
  unfold deviceModeResponse
  simp [razerStatusSuccess]

theorem heldResponse_query (h : isQueryRequest report = true) (result : BridgeExchangeResult) :
    (∃ kind, heldResponse report result = encodeTransportEnvelope kind) ∨
      queryReplyAccepted report (heldResponse report result) = true := by
  cases result with
  | matchedResponse response =>
    dsimp only [heldResponse]
    split
    next hmatched =>
      rw [h] at hmatched
      obtain hwrite | haccepted := hmatched
      · cases hwrite
      · exact .inr haccepted
    · exact .inl ⟨.mayHaveBeenSent, rfl⟩
  | notSent _ => exact .inl ⟨.notSent, rfl⟩
  | mayHaveBeenSent _ => exact .inl ⟨.mayHaveBeenSent, rfl⟩

variable {mode : UInt8 × UInt8} {answer : Option BridgeExchangeResult} {response : FeatureReport}

theorem Answers.query (h : Answers mode answer report response) (hquery : isQueryRequest report = true) :
    (∃ kind, response = encodeTransportEnvelope kind) ∨ queryReplyAccepted report response = true := by
  rw [h.response]
  cases answer with
  | none =>
    right
    obtain ⟨hstatus, htransaction, hclass, hcommand, -⟩ := deviceModeResponse_head report mode
    unfold queryReplyAccepted replyIdentityMatches
    rw [decide_eq_true_iff, decide_eq_true_iff]
    exact ⟨hstatus, htransaction, hclass, hcommand⟩
  | some result => exact heldResponse_query hquery result

theorem Answers.deviceMode (h : Answers mode answer report response) (hread : isDeviceModeRead report = true) :
    (response[8], response[9]) = mode := by
  have hnone : answer = none := by
    have hforwarded := h.forwarded
    rw [hread, Bool.or_true] at hforwarded
    simpa using hforwarded
  obtain ⟨-, -, -, -, hfirst, hsecond⟩ := deviceModeResponse_head report mode
  rw [h.response, hnone]
  exact Prod.ext hfirst hsecond

end Responses

section Attempts

variable {B : Type} [BridgeExchange B]

/-- The bridge gets the same report, once more than it may be asked again at most, and the last answer is the
result. -/
structure Exchanged (report : FeatureReport) (maximum : Nat) (before after : Recorded B) (result : BridgeExchangeResult)
    (given : List (FeatureReport × BridgeExchangeResult)) : Prop where
  exchanges : after.exchanges = before.exchanges ++ given
  length : given.length ≤ maximum
  same : ∀ exchange ∈ given, exchange.1 = report
  last : given.getLast? = some (report, result)

theorem exchangeFrom_exchanged (report : FeatureReport) (further attempt : Nat) (recorded : Recorded B) :
    ∃ given, Exchanged report (further + 1) recorded (exchangeFrom report further attempt recorded).2
      (exchangeFrom report further attempt recorded).1.1 given := by
  have hsingle : ∀ (maximum : Nat) (recorded : Recorded B), Exchanged report (maximum + 1) recorded
      (BridgeExchange.exchange report recorded).2 (BridgeExchange.exchange report recorded).1
      [(report, (BridgeExchange.exchange report recorded).1)] :=
    fun maximum _ => ⟨rfl, Nat.succ_le_succ (Nat.zero_le maximum), by simp, rfl⟩
  induction further generalizing attempt recorded with
  | zero => exact ⟨_, hsingle 0 recorded⟩
  | succ further ih =>
    unfold exchangeFrom
    dsimp only
    split
    · obtain ⟨given, h⟩ := ih (attempt + 1) (BridgeExchange.exchange report recorded).2
      refine ⟨(report, (BridgeExchange.exchange report recorded).1) :: given, ?_, Nat.succ_le_succ h.length, ?_, ?_⟩
      · rw [h.exchanges]
        exact List.append_assoc recorded.exchanges [_] given
      · exact List.forall_mem_cons.mpr ⟨rfl, h.same⟩
      · rw [List.getLast?_cons, h.last]
        rfl
    · exact ⟨_, hsingle _ recorded⟩

theorem maximumAttempts_pos (report : FeatureReport) : 0 < maximumAttempts report := by
  unfold maximumAttempts
  split
  · exact Nat.zero_lt_succ _
  · exact Nat.zero_lt_succ _

theorem exchange_exchanged (report : FeatureReport) (recorded : Recorded B) :
    ∃ given, Exchanged report (maximumAttempts report) recorded (exchange report recorded).2
      (exchange report recorded).1.1 given := by
  have h := exchangeFrom_exchanged report (maximumAttempts report - 1) 1 recorded
  rw [Nat.sub_add_cancel (maximumAttempts_pos report)] at h
  exact h

/-- What an admitted SET leaves. -/
structure SetCompleted (report : FeatureReport) (endpoint after : FeatureEndpoint (Recorded B)) : Prop where
  policy : after.commandPolicy = endpoint.commandPolicy
  mode : after.virtualDeviceMode =
    if isDeviceModeWrite report then (report[8], report[9]) else endpoint.virtualDeviceMode
  pending : ∃ given response, after.bridge.exchanges = endpoint.bridge.exchanges ++ given ∧
    given.length ≤ maximumAttempts report ∧ (∀ exchange ∈ given, exchange.1 = report) ∧
    after.pendingResponse = some response ∧
    Answers after.virtualDeviceMode (given.getLast?.map (·.2)) report response

theorem completeSet_virtualized {endpoint : FeatureEndpoint (Recorded B)} {mode : UInt8 × UInt8}
    (h : endpoint.virtualizedResponse report =
      (some (deviceModeResponse report mode), { endpoint with virtualDeviceMode := mode }))
    (hmode : mode = if isDeviceModeWrite report then (report[8], report[9]) else endpoint.virtualDeviceMode)
    (hvirtual : (isDeviceModeWrite report || isDeviceModeRead report) = true) :
    SetCompleted report endpoint (endpoint.completeSet report) := by
  unfold completeSet
  rw [h]
  refine ⟨rfl, hmode, [], _, (List.append_nil _).symm, Nat.zero_le _, by simp, rfl, ?_, rfl⟩
  rw [hvirtual]
  rfl

theorem completeSet_forwarded {endpoint : FeatureEndpoint (Recorded B)}
    (h : endpoint.virtualizedResponse report = (none, endpoint)) (hwrite : isDeviceModeWrite report = false)
    (hread : isDeviceModeRead report = false) :
    SetCompleted report endpoint (endpoint.completeSet report) := by
  unfold completeSet
  rw [h]
  obtain ⟨given, hgiven⟩ := exchange_exchanged report endpoint.bridge
  refine ⟨rfl, ?_, given, _, hgiven.exchanges, hgiven.length, hgiven.same, rfl, ?_, ?_⟩
  · rw [hwrite]
    rfl
  · rw [hgiven.last, hwrite, hread]
    rfl
  · rw [hgiven.last]
    rfl

theorem completeSet_completed (report : FeatureReport) (endpoint : FeatureEndpoint (Recorded B)) :
    SetCompleted report endpoint (endpoint.completeSet report) := by
  by_cases hclass : report[5] ≠ 2 ∨ report[6] ≠ 0
  · have hother : ∀ command : UInt8, ¬ (report[5] = 2 ∧ report[6] = 0 ∧ report[7] = command) := by
      intro command hmode
      obtain hsize | hcommandClass := hclass
      · exact hsize hmode.1
      · exact hcommandClass hmode.2.1
    apply completeSet_forwarded
    · unfold virtualizedResponse
      rw [if_pos hclass]
    · exact decide_eq_false (hother 0x04)
    · exact decide_eq_false (hother 0x84)
  have hdevice : report[5] = 2 ∧ report[6] = 0 := by
    rw [not_or, not_not, not_not] at hclass
    exact hclass
  by_cases hwrite : report[7] = 0x04
  · apply completeSet_virtualized
    · unfold virtualizedResponse
      rw [if_neg hclass, if_pos hwrite]
    · have hmode : isDeviceModeWrite report = true := decide_eq_true ⟨hdevice.1, hdevice.2, hwrite⟩
      rw [if_pos hmode]
    · rw [Bool.or_eq_true]
      exact .inl (decide_eq_true ⟨hdevice.1, hdevice.2, hwrite⟩)
  have hnotWrite : isDeviceModeWrite report = false := decide_eq_false fun hmode => hwrite hmode.2.2
  by_cases hread : report[7] = 0x84
  · apply completeSet_virtualized
    · unfold virtualizedResponse
      rw [if_neg hclass, if_neg hwrite, if_pos hread]
    · rw [hnotWrite]
      rfl
    · rw [Bool.or_eq_true]
      exact .inr (decide_eq_true ⟨hdevice.1, hdevice.2, hread⟩)
  apply completeSet_forwarded _ hnotWrite (decide_eq_false fun hmode => hread hmode.2.2)
  unfold virtualizedResponse
  rw [if_neg hclass, if_neg hwrite, if_neg hread]

end Attempts

section Steps

variable {B : Type} [BridgeExchange B]

inductive EventStep (endpoint : FeatureEndpoint (Recorded B)) :
    Observed → FeatureEndpoint (Recorded B) → Prop where
  | withdrawn {answer : Except EndpointError (Option UhidReply)} {after : FeatureEndpoint (Recorded B)}
      (hanswer : Observed.returned ⟨.stop, answer, []⟩ = none)
      (hpolicy : after.commandPolicy = endpoint.commandPolicy) (hpending : after.pendingResponse = none)
      (hmode : after.virtualDeviceMode = (0, 0)) : EventStep endpoint ⟨.stop, answer, []⟩ after
  | set {id : UInt32} {data : List UInt8} {report : FeatureReport} (hdata : toReport data = some report)
      (hallows : endpoint.commandPolicy.allows report = true) (hstarted : endpoint.state = .started)
      (hfree : endpoint.pendingResponse = none) (hstays : endpoint.retainedRouteDeparture = .none)
      {after : FeatureEndpoint (Recorded B)} (hcompleted : SetCompleted report (clearRequests endpoint) after) :
      EventStep endpoint ⟨.setReport id 0 0 data, .ok (some (.setReport id true)), after.bridge.exchanges⟩ after
  | returned {id : UInt32} {response : FeatureReport} {event : UhidEvent}
      (hpending : endpoint.pendingResponse = some response) (hevent : event ≠ .stop)
      {after : FeatureEndpoint (Recorded B)} (hpolicy : after.commandPolicy = endpoint.commandPolicy)
      (hgiven : after.pendingResponse = none)
      (hmode : after.virtualDeviceMode = endpoint.virtualDeviceMode) :
      EventStep endpoint ⟨event, .ok (some (.getReport id (some response.toList))), []⟩ after
  | quiet {observed : Observed} (hwithdraws : observed.withdraws = false)
      (hreturned : observed.returned = none) (haccepted : observed.accepted = none)
      (hexchanges : observed.exchanges = []) {after : FeatureEndpoint (Recorded B)}
      (hpolicy : after.commandPolicy = endpoint.commandPolicy)
      (hpending : after.pendingResponse = endpoint.pendingResponse)
      (hmode : after.virtualDeviceMode = endpoint.virtualDeviceMode) : EventStep endpoint observed after

variable {endpoint after : FeatureEndpoint (Recorded B)} {event : UhidEvent}

theorem observe_error {error : EndpointError}
    (h : (clearRequests endpoint).admitEvent event = (.error error, after)) :
    observe endpoint event = (⟨event, .error error, after.bridge.exchanges⟩, after) := by
  unfold observe handle
  rw [h]

theorem observe_reply {reply : Option UhidReply}
    (h : (clearRequests endpoint).admitEvent event = (.ok (.reply reply), after)) :
    observe endpoint event = (⟨event, .ok reply, after.bridge.exchanges⟩, after) := by
  unfold observe handle
  rw [h]

theorem observe_set {reply : UhidReply}
    (h : (clearRequests endpoint).admitEvent event = (.ok (.set reply report), after)) :
    observe endpoint event =
      (⟨event, .ok (some reply), (after.completeSet report).bridge.exchanges⟩, after.completeSet report) := by
  unfold observe handle
  rw [h]

omit [BridgeExchange B] in
theorem admitSet_cases (endpoint : FeatureEndpoint B) (id : UInt32) (reportNumber reportType : UInt8)
    (data : List UInt8) :
    endpoint.admitSet id reportNumber reportType data = .reply (some (.setReport id false)) ∨
    ∃ report, toReport data = some report ∧ endpoint.commandPolicy.allows report = true ∧
      endpoint.state = .started ∧ endpoint.pendingResponse = none ∧
      endpoint.retainedRouteDeparture = .none ∧ reportNumber = 0 ∧ reportType = 0 ∧
      endpoint.admitSet id reportNumber reportType data = .set (.setReport id true) report := by
  unfold admitSet
  cases hdata : toReport data with
  | none => exact .inl rfl
  | some report =>
    dsimp only
    split
    · exact .inl rfl
    next hadmitted =>
      simp only [not_or, not_not, Bool.not_eq_false, Bool.not_eq_true, Option.isSome_eq_false_iff,
        Option.isNone_iff_eq_none] at hadmitted
      obtain ⟨hstarted, hfeature, hfree, hstays, hallows⟩ := hadmitted
      obtain ⟨hnumber, htype⟩ := of_decide_eq_true hfeature
      exact .inr ⟨report, rfl, hallows, hstarted, hfree, hstays, hnumber, htype, rfl⟩

theorem observe_setReport (endpoint : FeatureEndpoint (Recorded B)) (id : UInt32)
    (reportNumber reportType : UInt8) (data : List UInt8) :
    EventStep endpoint (observe endpoint (.setReport id reportNumber reportType data)).1
      (observe endpoint (.setReport id reportNumber reportType data)).2 := by
  have hevent : (clearRequests endpoint).admitEvent (.setReport id reportNumber reportType data) =
      (.ok ((clearRequests endpoint).admitSet id reportNumber reportType data), clearRequests endpoint) := rfl
  obtain hrejected | ⟨report, hdata, hallows, hstarted, hfree, hstays, hnumber, htype, hadmitted⟩ :=
    admitSet_cases (clearRequests endpoint) id reportNumber reportType data
  · rw [hrejected] at hevent
    rw [observe_reply hevent]
    exact .quiet rfl rfl rfl rfl rfl rfl rfl
  rw [hadmitted] at hevent
  rw [observe_set hevent, hnumber, htype]
  refine .set hdata ?_ ?_ ?_ ?_ (completeSet_completed report _)
  · exact hallows
  · exact hstarted
  · exact hfree
  · exact hstays

theorem observe_getReport (endpoint : FeatureEndpoint (Recorded B)) (id : UInt32)
    (reportNumber reportType : UInt8) :
    EventStep endpoint (observe endpoint (.getReport id reportNumber reportType)).1
      (observe endpoint (.getReport id reportNumber reportType)).2 := by
  have hevent : (clearRequests endpoint).admitEvent (.getReport id reportNumber reportType) =
      (.ok (.reply (some ((clearRequests endpoint).handleGet id reportNumber reportType).1)),
        ((clearRequests endpoint).handleGet id reportNumber reportType).2) := rfl
  rw [observe_reply hevent]
  unfold handleGet
  split
  · exact .quiet rfl rfl rfl rfl rfl rfl rfl
  have hpending : (clearRequests endpoint).pendingResponse = endpoint.pendingResponse := rfl
  cases hresponse : endpoint.pendingResponse with
  | none =>
    rw [hpending, hresponse]
    exact .quiet rfl rfl rfl rfl rfl hresponse.symm rfl
  | some response =>
    rw [hpending, hresponse]
    exact .returned hresponse (fun hstop => by cases hstop) rfl rfl rfl

theorem observe_step (endpoint : FeatureEndpoint (Recorded B)) (event : UhidEvent) :
    EventStep endpoint (observe endpoint event).1 (observe endpoint event).2 := by
  cases event with
  | start flags =>
    by_cases hflags : flags &&& 0x04 ≠ 0
    · have hevent : (clearRequests endpoint).admitEvent (.start flags) =
          (.error .invalidFeatureRequest, clearRequests endpoint) := if_pos hflags
      rw [observe_error hevent]
      exact .quiet rfl rfl rfl rfl rfl rfl rfl
    have hevent : (clearRequests endpoint).admitEvent (.start flags) =
        (.ok (.reply none), { clearRequests endpoint with state := .started }) := if_neg hflags
    rw [observe_reply hevent]
    exact .quiet rfl rfl rfl rfl rfl rfl rfl
  | stop => exact .withdrawn rfl rfl rfl rfl
  | «open» | close | output | unknown eventType => exact .quiet rfl rfl rfl rfl rfl rfl rfl
  | setReport id reportNumber reportType data =>
    exact observe_setReport endpoint id reportNumber reportType data
  | getReport id reportNumber reportType => exact observe_getReport endpoint id reportNumber reportType

end Steps

section Runs

variable {B : Type} [BridgeExchange B]

variable {observed : Observed} {data : List UInt8} {policy : NativeCommand.NativeCommandPolicy}
  {history : List Observed}

theorem openSet_quiet (hwithdraws : observed.withdraws = false) (hreturned : observed.returned = none)
    (haccepted : observed.accepted = none) (history : List Observed) :
    openSet (observed :: history) = openSet history := by
  rw [openSet, hwithdraws, hreturned, haccepted]
  rfl

theorem openSet_accepted (hwithdraws : observed.withdraws = false) (hreturned : observed.returned = none)
    (haccepted : observed.accepted = some report) (history : List Observed) :
    openSet (observed :: history) = some report := by
  rw [openSet, hwithdraws, hreturned, haccepted]
  rfl

theorem openSet_withdrawn (h : observed.withdraws = true) (history : List Observed) :
    openSet (observed :: history) = none := by
  rw [openSet, h]
  rfl

theorem openSet_returned (h : observed.returned = some data) (history : List Observed)
    : openSet (observed :: history) = none := by
  rw [openSet, h]
  exact if_pos (.inr rfl)

theorem openAnswer_unaccepted (haccepted : observed.accepted = none) (history : List Observed) :
    openAnswer (observed :: history) = openAnswer history := by
  rw [openAnswer, haccepted]
  rfl

theorem openAnswer_accepted (haccepted : observed.accepted = some report) (history : List Observed) :
    openAnswer (observed :: history) = observed.exchanges.getLast?.map (·.2) := by
  rw [openAnswer, haccepted]
  rfl

theorem deviceMode_unwritten (hwithdraws : observed.withdraws = false) (haccepted : observed.accepted = none)
    (history : List Observed) :
    deviceMode (observed :: history) = deviceMode history := by
  rw [deviceMode, hwithdraws, haccepted]
  rfl

theorem deviceMode_accepted (hwithdraws : observed.withdraws = false)
    (haccepted : observed.accepted = some report) (history : List Observed) :
    deviceMode (observed :: history) =
      if isDeviceModeWrite report then (report[8], report[9]) else deviceMode history := by
  rw [deviceMode, hwithdraws, haccepted]
  rfl

theorem deviceMode_withdrawn (h : observed.withdraws = true) (history : List Observed)
    : deviceMode (observed :: history) = (0, 0) := by
  rw [deviceMode, h]
  rfl

theorem accepted_of_returned (h : observed.returned = some data) : observed.accepted = none := by
  obtain ⟨event, answer, exchanges⟩ := observed
  cases hanswer : answer with
  | error error => rw [hanswer] at h; cases h
  | ok reply =>
    cases hreply : reply with
    | none => rw [hanswer, hreply] at h; cases h
    | some reply =>
      cases reply with
      | setReport id success => rw [hanswer, hreply] at h; cases h
      | getReport id data => cases event <;> rfl

omit [BridgeExchange B] in
theorem follows_step {endpoint after : FeatureEndpoint (Recorded B)} (h : Follows policy history endpoint)
    (hstep : EventStep endpoint observed after) :
    Follows policy (observed :: history) after := by
  cases hstep with
  | @withdrawn answer after hanswer hpolicy hpending hmode =>
    have hwithdraws : Observed.withdraws ⟨.stop, answer, []⟩ = true := rfl
    have hopen := openSet_withdrawn hwithdraws history
    refine ⟨hpolicy.trans h.policy, ?_, ?_⟩
    · rw [hpending, hopen]
      exact .none
    · rw [hmode, deviceMode_withdrawn hwithdraws]
  | @set id data report hdata hallows hstarted hfree hstays after hcompleted =>
    have haccepted : Observed.accepted
        ⟨.setReport id 0 0 data, .ok (some (.setReport id true)), after.bridge.exchanges⟩ = some report := hdata
    have hmode : after.virtualDeviceMode = deviceMode
        (⟨.setReport id 0 0 data, .ok (some (.setReport id true)), after.bridge.exchanges⟩ :: history) := by
      rw [deviceMode_accepted rfl haccepted, hcompleted.mode, ← h.mode]
      rfl
    obtain ⟨given, response, hexchanges, -, -, hpending, hanswers⟩ := hcompleted.pending
    refine ⟨hcompleted.policy.trans h.policy, ?_, hmode⟩
    rw [openSet_accepted rfl rfl haccepted, hpending, ← hmode, openAnswer_accepted haccepted, hexchanges]
    exact .some hanswers
  | @returned id response event hpending hevent after hpolicy hgiven hmode =>
    have hreturned : Observed.returned
        ⟨event, .ok (some (.getReport id (some response.toList))), []⟩ = some response.toList := rfl
    refine ⟨hpolicy.trans h.policy, ?_, ?_⟩
    · rw [hgiven, openSet_returned hreturned]
      exact .none
    · rw [hmode, h.mode, deviceMode_unwritten (decide_eq_false hevent) (accepted_of_returned hreturned)]
  | quiet hwithdraws hreturned haccepted hexchanges hpolicy hpending hmode =>
    refine ⟨hpolicy.trans h.policy, ?_, ?_⟩
    · rw [hpending, openSet_quiet hwithdraws hreturned haccepted, deviceMode_unwritten hwithdraws haccepted,
        openAnswer_unaccepted haccepted]
      exact h.pending
    rw [hmode, deviceMode_unwritten hwithdraws haccepted]
    exact h.mode

theorem endpointReach_follows {bridge : B} {endpoint : FeatureEndpoint (Recorded B)}
    (h : EndpointReach bridge policy history endpoint) : Follows policy history endpoint := by
  induction h with
  | start => exact ⟨rfl, .none, rfl⟩
  | step _ event ih => exact follows_step ih (observe_step _ event)

/-- In every run, an event reaches the bridge only as an allowed SET of a started endpoint that owes no response and
departs from no route, with one exchange for a write and at most five for a query. A GET returns the response of the
most recent accepted SET, which is open no longer: the bridge's last answer to it, for a query only an envelope or the
successful reply to this very request, and for the device mode the mode that was written last. -/
theorem endpoint_protocol {bridge : B} {policy : NativeCommand.NativeCommandPolicy}
    {history : List Observed} {endpoint : FeatureEndpoint (Recorded B)}
    (h : EndpointReach bridge policy history endpoint) (event : UhidEvent) :
    ((observe endpoint event).1.requests ≠ [] → ∃ id data report count,
      event = .setReport id 0 0 data ∧ toReport data = some report ∧ policy.allows report = true ∧
      endpoint.state = .started ∧ endpoint.pendingResponse = none ∧
      endpoint.retainedRouteDeparture = .none ∧
      (observe endpoint event).1.requests = List.replicate count report ∧
      count ≤ if isQueryRequest report then sourceBusyRetryMaximumAttempts else 1) ∧
    ∀ data, (observe endpoint event).1.returned = some data → ∃ report response : FeatureReport,
      data = response.toList ∧ openSet history = some report ∧
      openSet ((observe endpoint event).1 :: history) = none ∧
      (isDeviceModeWrite report = false → isDeviceModeRead report = false →
        ∃ answer, openAnswer history = some answer ∧ response = heldResponse report answer) ∧
      (isQueryRequest report = true → (∃ kind, response = encodeTransportEnvelope kind) ∨
        (response[0] = razerStatusSuccess ∧ response[1] = report[1] ∧ response[6] = report[6] ∧
          response[7] = report[7])) ∧
      (isDeviceModeRead report = true → (response[8], response[9]) = deviceMode history) := by
  have hfollows := endpointReach_follows h
  have hevent : (observe endpoint event).1.event = event := rfl
  have hstep := observe_step endpoint event
  generalize (observe endpoint event).1 = observed at hstep hevent ⊢
  constructor
  · intro hreached
    cases hstep with
    | withdrawn | returned => exact absurd rfl hreached
    | quiet _ _ _ hexchanges =>
      rw [Observed.requests, hexchanges] at hreached
      exact absurd rfl hreached
    | @set id data report hdata hallows hstarted hfree hstays after hcompleted =>
      obtain ⟨given, _, hexchanges, hlength, hsame, -⟩ := hcompleted.pending
      refine ⟨id, data, report, given.length, hevent.symm, hdata, ?_, hstarted, hfree, hstays, ?_, hlength⟩
      · rw [← hfollows.policy]
        exact hallows
      · unfold Observed.requests
        rw [hexchanges]
        exact List.eq_replicate_iff.mpr ⟨List.length_map _, by simpa [clearRequests] using hsame⟩
  intro data hreturned
  cases hstep with
  | withdrawn hanswer =>
    rw [hanswer] at hreturned
    cases hreturned
  | set => cases hreturned
  | quiet _ hquiet =>
    rw [hquiet] at hreturned
    cases hreturned
  | @returned id response event hpending hevent after hpolicy hgiven hmode =>
    cases hreturned
    have hopen := hfollows.pending
    rw [hpending] at hopen
    generalize hset : openSet history = opened at hopen
    cases hopen with
    | @some report _ hanswers =>
      refine ⟨report, response, rfl, rfl, openSet_returned rfl history, fun hwrite hread => ?_, fun hquery => ?_,
        hanswers.deviceMode⟩
      · have hforwarded := hanswers.forwarded
        rw [hwrite, hread] at hforwarded
        obtain ⟨answer, hanswer⟩ := Option.isSome_iff_exists.mp hforwarded
        refine ⟨answer, hanswer, ?_⟩
        rw [hanswers.response, hanswer]
        rfl
      obtain henvelope | haccepted := hanswers.query hquery
      · exact .inl henvelope
      obtain ⟨hstatus, hidentity⟩ := of_decide_eq_true haccepted
      exact .inr ⟨hstatus, of_decide_eq_true hidentity⟩

end Runs

section Samples

/-- A bridge that answers every report with its own success. -/
structure EchoBridge where

instance : BridgeExchange EchoBridge where
  exchange report bridge := (.matchedResponse (report.set 0 razerStatusSuccess), bridge)

def batteryPolicy : NativeCommand.NativeCommandPolicy := ⟨[⟨0x07, 0x80, [2], .fields [.exact 0 [0, 0]]⟩]⟩

def batteryReport : FeatureReport :=
  ((((Vector.replicate 90 0).set 1 0x1f).set 5 2).set 6 0x07).set 7 0x80 |>.set 88 0x85

def batteryEvent : UhidEvent := .setReport 1 0 0 batteryReport.toList

def startedEndpoint : FeatureEndpoint (Recorded EchoBridge) :=
  (observe (.new ⟨⟨⟩, []⟩ batteryPolicy) (.start 0)).2

def batteryHistory : List Observed :=
  [(observe startedEndpoint batteryEvent).1, (observe (.new ⟨EchoBridge.mk, []⟩ batteryPolicy) (.start 0)).1]

theorem endpoint_protocol_battery :
    (observe startedEndpoint batteryEvent).1.requests = [batteryReport] ∧
    ∃ response : FeatureReport,
      (observe (observe startedEndpoint batteryEvent).2 (.getReport 2 0 0)).1.returned = some response.toList ∧
      openAnswer batteryHistory = some (.matchedResponse response) := by
  have hreach : EndpointReach EchoBridge.mk batteryPolicy batteryHistory
      (observe startedEndpoint batteryEvent).2 := .step (.step .start _) _
  have hreturned : (observe (observe startedEndpoint batteryEvent).2 (.getReport 2 0 0)).1.returned =
      some (batteryReport.set 0 razerStatusSuccess).toList := by decide +kernel
  have hset : openSet batteryHistory = some batteryReport := by decide +kernel
  have hanswered : openAnswer batteryHistory = some (.matchedResponse (batteryReport.set 0 razerStatusSuccess)) := by
    decide +kernel
  obtain ⟨report, response, hdata, hopen, -, hgiven, -⟩ :=
    (endpoint_protocol hreach (.getReport 2 0 0)).2 _ hreturned
  cases hset.symm.trans hopen
  obtain ⟨answer, hanswer, hresponse⟩ := hgiven (by decide) (by decide)
  cases hanswered.symm.trans hanswer
  have hheld : response = batteryReport.set 0 razerStatusSuccess := hresponse.trans (by decide +kernel)
  refine ⟨by decide +kernel, response, hreturned.trans (congrArg some hdata), ?_⟩
  rw [hheld]
  exact hanswered

end Samples

def BridgeExchangeResult.isNotSent : BridgeExchangeResult → Bool
  | .notSent _ => true
  | _ => false

variable {report : FeatureReport} {answer : BridgeExchangeResult}

section Answers

variable {B : Type} [BridgeExchange B]

/-- The bridge once it was given the report so often. -/
def bridgeAfter (report : FeatureReport) : Nat → B → B
  | 0, bridge => bridge
  | count + 1, bridge => bridgeAfter report count (BridgeExchange.exchange report bridge).2

def bridgeAnswer (report : FeatureReport) (count : Nat) (bridge : B) : BridgeExchangeResult :=
  (BridgeExchange.exchange report (bridgeAfter report count bridge)).1

/-- An attempt that is made: all the answers before it are asked for again. -/
def Attempted (report : FeatureReport) (bridge : B) (attempt : Nat) : Prop :=
  attempt < maximumAttempts report ∧ ∀ earlier < attempt, retried report (bridgeAnswer report earlier bridge) = true

theorem exchangeFrom_last (report : FeatureReport) (further attempt : Nat) (bridge : B) :
    ∃ last ≤ further, (∀ earlier < last, retried report (bridgeAnswer report earlier bridge) = true) ∧
      (last = further ∨ retried report (bridgeAnswer report last bridge) = false) ∧
      exchangeFrom report further attempt bridge =
        ((bridgeAnswer report last bridge, attempt + last), bridgeAfter report (last + 1) bridge) := by
  induction further generalizing attempt bridge with
  | zero => exact ⟨0, Nat.le_refl _, fun _ hearlier => absurd hearlier (Nat.not_lt_zero _), .inl rfl, rfl⟩
  | succ further ih =>
    unfold exchangeFrom
    dsimp only
    by_cases hretried : retried report (BridgeExchange.exchange report bridge).1 = true
    · rw [if_pos hretried]
      obtain ⟨last, hlast, hearlier, hend, hresult⟩ :=
        ih (attempt + 1) (BridgeExchange.exchange report bridge).2
      refine ⟨last + 1, Nat.succ_le_succ hlast, ?_, ?_, ?_⟩
      · intro earlier hlt
        cases earlier with
        | zero => exact hretried
        | succ earlier => exact hearlier earlier (Nat.lt_of_succ_lt_succ hlt)
      · obtain hall | hdone := hend
        · exact .inl (congrArg Nat.succ hall)
        · exact .inr hdone
      rw [hresult, Nat.add_assoc, Nat.add_comm 1]
      rfl
    rw [if_neg hretried]
    exact ⟨0, Nat.zero_le _, fun _ hearlier => absurd hearlier (Nat.not_lt_zero _),
      .inr (Bool.eq_false_iff.mpr hretried), rfl⟩

theorem exchange_last (report : FeatureReport) (bridge : B) :
    ∃ last, Attempted report bridge last ∧
      (∀ attempt, Attempted report bridge attempt → attempt ≤ last) ∧
      exchange report bridge =
        ((bridgeAnswer report last bridge, 1 + last), bridgeAfter report (last + 1) bridge) := by
  have hpositive := maximumAttempts_pos report
  obtain ⟨last, hlast, hearlier, hend, hresult⟩ :=
    exchangeFrom_last report (maximumAttempts report - 1) 1 bridge
  refine ⟨last, ⟨by omega, hearlier⟩, ?_, hresult⟩
  intro attempt hattempted
  by_contra hlater
  obtain hall | hdone := hend
  · have := hattempted.1
    omega
  have hagain := hattempted.2 last (by omega)
  rw [hdone] at hagain
  cases hagain

theorem isNotSent_of_retried (h : retried report answer = true) : answer.isNotSent = false := by
  cases answer with
  | matchedResponse _ => rfl
  | notSent _ => cases h
  | mayHaveBeenSent _ => rfl

end Answers

theorem envelope_head (kind : TransportEnvelopeKind) : (encodeTransportEnvelope kind)[0] = 0x48 := by
  cases kind <;> rfl

theorem mayHaveBeenSent_ne_notSent :
    encodeTransportEnvelope .mayHaveBeenSent ≠ encodeTransportEnvelope .notSent := by
  decide +kernel

/-- The envelope is held after a refusal to send, and when the device answers a command with it. -/
theorem heldResponse_notSent :
    heldResponse report answer = encodeTransportEnvelope .notSent ↔
      answer.isNotSent = true ∨
        (isQueryRequest report = false ∧ answer = .matchedResponse (encodeTransportEnvelope .notSent)) := by
  cases answer with
  | notSent _ => exact ⟨fun _ => .inl rfl, fun _ => rfl⟩
  | mayHaveBeenSent _ =>
    have hne := mayHaveBeenSent_ne_notSent
    simp [heldResponse, BridgeExchangeResult.isNotSent, hne]
  | matchedResponse response =>
    dsimp only [heldResponse, BridgeExchangeResult.isNotSent]
    by_cases hquery : isQueryRequest report = true
    · by_cases haccepted : queryReplyAccepted report response = true
      · have hstatus : response[0] = razerStatusSuccess := (of_decide_eq_true haccepted).1
        have hne : response ≠ encodeTransportEnvelope .notSent := by
          intro heq
          rw [heq, envelope_head] at hstatus
          cases hstatus
        simp [hquery, haccepted, hne]
      · simp [hquery, haccepted, mayHaveBeenSent_ne_notSent]
    · simp [hquery]

section Completion

variable {B : Type}

/-- A SET that is answered here makes no attempt. -/
def Forwarded (endpoint : FeatureEndpoint B) (report : FeatureReport) : Prop :=
  (endpoint.virtualizedResponse report).1 = none

theorem virtualizedResponse_forwarded {endpoint : FeatureEndpoint B} (h : Forwarded endpoint report)
    : endpoint.virtualizedResponse report = (none, endpoint) := by
  unfold Forwarded at h
  unfold FeatureEndpoint.virtualizedResponse at h ⊢
  split
  · rfl
  split
  · simp_all
  split
  · simp_all
  · rfl

variable [BridgeExchange B]

theorem completeSet_held {endpoint : FeatureEndpoint B} (h : Forwarded endpoint report) :
    (endpoint.completeSet report).pendingResponse =
      some (heldResponse report (exchange report endpoint.bridge).1.1) := by
  unfold FeatureEndpoint.completeSet
  rw [virtualizedResponse_forwarded h]

def AttemptAnswer (endpoint : FeatureEndpoint B) (report : FeatureReport) (answer : BridgeExchangeResult) : Prop :=
  Forwarded endpoint report ∧
    ∃ attempt, Attempted report endpoint.bridge attempt ∧ bridgeAnswer report attempt endpoint.bridge = answer

/-- The bridge refuses to send the report after it had to be asked again, or the device answers a command with the
envelope itself. -/
def LostBetweenAttempts (endpoint : FeatureEndpoint B) (report : FeatureReport) : Prop :=
  Forwarded endpoint report ∧ ∃ attempt, Attempted report endpoint.bridge attempt ∧
    ((0 < attempt ∧ (bridgeAnswer report attempt endpoint.bridge).isNotSent = true) ∨
      (isQueryRequest report = false ∧ bridgeAnswer report attempt endpoint.bridge =
        .matchedResponse (encodeTransportEnvelope .notSent)))

theorem envelope_certainty (endpoint : FeatureEndpoint B) (report : FeatureReport) :
    ((∃ answer, AttemptAnswer endpoint report answer ∧ answer.isNotSent = false) →
        (endpoint.completeSet report).pendingResponse ≠ some (encodeTransportEnvelope .notSent)) ↔
      ¬ LostBetweenAttempts endpoint report := by
  obtain ⟨last, hlast, hlatest, hresult⟩ := exchange_last report endpoint.bridge
  constructor
  · intro hcertain ⟨hforwarded, attempt, hattempted, hlost⟩
    have hunretried : retried report (bridgeAnswer report attempt endpoint.bridge) = false ∨
        maximumAttempts report = 1 := by
      obtain ⟨-, hnotSent⟩ | ⟨hcommand, -⟩ := hlost
      · left
        by_contra hretried
        have hsent := isNotSent_of_retried (Bool.not_eq_false _ ▸ hretried)
        rw [hnotSent] at hsent
        cases hsent
      right
      unfold maximumAttempts
      rw [hcommand]
      rfl
    have hsame : attempt = last := by
      have hle := hlatest attempt hattempted
      have hbound := hlast.1
      by_contra hne
      obtain hdone | hsingle := hunretried
      · have hagain := hlast.2 attempt (by omega)
        rw [hdone] at hagain
        cases hagain
      · omega
    subst hsame
    apply hcertain _
    · rw [completeSet_held hforwarded, hresult]
      congr 1
      rw [heldResponse_notSent]
      obtain ⟨-, hnotSent⟩ | hcommand := hlost
      · exact .inl hnotSent
      · exact .inr hcommand
    obtain ⟨hpositive, -⟩ | ⟨-, hverbatim⟩ := hlost
    · have hmaximum := hattempted.1
      exact ⟨_, ⟨hforwarded, 0, ⟨by omega, fun _ h => absurd h (Nat.not_lt_zero _)⟩, rfl⟩,
        isNotSent_of_retried (hattempted.2 0 hpositive)⟩
    · exact ⟨_, ⟨hforwarded, attempt, hattempted, rfl⟩, by rw [hverbatim]; rfl⟩
  · intro hkept ⟨answer, ⟨hforwarded, attempt, hattempted, hanswer⟩, hsent⟩ hheld
    rw [completeSet_held hforwarded, hresult, Option.some.injEq, heldResponse_notSent] at hheld
    apply hkept
    obtain hnotSent | hcommand := hheld
    · refine ⟨hforwarded, last, hlast, .inl ⟨?_, hnotSent⟩⟩
      by_contra hfirst
      have hle := hlatest attempt hattempted
      have hsame : attempt = last := by omega
      rw [← hanswer, hsame, hnotSent] at hsent
      cases hsent
    · exact ⟨hforwarded, last, hlast, .inr hcommand⟩

end Completion

/-- A bridge that gives the answers it was told to give. -/
structure ScriptedBridge where
  answers : List BridgeExchangeResult

instance : BridgeExchange ScriptedBridge where
  exchange _ bridge := (bridge.answers.headD (.notSent .missingRouteAuthority), ⟨bridge.answers.tail⟩)

/-- The device is busy, and the route is gone when the report is to be sent again. -/
def interruptedEndpoint : FeatureEndpoint ScriptedBridge :=
  { FeatureEndpoint.new ⟨[.matchedResponse (batteryReport.set 0 razerStatusBusy), .notSent .transportNotSent]⟩
      batteryPolicy with state := .started }

theorem interrupted_query_not_sent :
    interruptedEndpoint.admitSet 1 0 0 batteryReport.toList = .set (.setReport 1 true) batteryReport ∧
      AttemptAnswer interruptedEndpoint batteryReport (.matchedResponse (batteryReport.set 0 razerStatusBusy)) ∧
      (interruptedEndpoint.completeSet batteryReport).pendingResponse =
        some (encodeTransportEnvelope .notSent) := by
  refine ⟨by decide +kernel, ⟨rfl, 0, ⟨by decide +kernel, ?_⟩, by decide +kernel⟩, by decide +kernel⟩
  intro earlier hearlier
  exact absurd hearlier (Nat.not_lt_zero _)

end UhidRelay

end HyperfluxNext

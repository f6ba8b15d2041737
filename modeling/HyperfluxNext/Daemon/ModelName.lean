import HyperfluxNext.Daemon.ChildBattery
import Mathlib.Data.List.DropRight

namespace HyperfluxNext

open ChildBatteryState List Battery

/-- The characters a record's name field holds before its first zero. -/
def Battery.HfxUapiChildBattery.carriedName (record : HfxUapiChildBattery) : String :=
  String.ofList ((record.modelName.toList.takeWhile (· ≠ 0)).map fun byte => Char.ofNat byte.toNat)

theorem printable_char {character : Char} (h : isPrintable character = true) :
    Char.ofNat (UInt8.ofNat character.toNat).toNat = character := by
  have hrange : 0x20 ≤ character.toNat ∧ character.toNat ≤ 0x7e := of_decide_eq_true h
  have hbyte : (UInt8.ofNat character.toNat).toNat = character.toNat := by
    rw [UInt8.toNat_ofNat']
    omega
  rw [hbyte]
  exact Char.ofNat_toNat character

theorem takeWhile_modelNameBytes (modelName : String) :
    (modelNameBytes modelName).toList.takeWhile (· ≠ 0) =
      (boundedModelName modelName).toList.map fun character => UInt8.ofNat character.toNat := by
  have hnonzero : ∀ byte ∈ (boundedModelName modelName).toList.map
      (fun character => UInt8.ofNat character.toNat), decide (byte ≠ 0) = true := by
    intro byte hmem
    obtain ⟨character, hcharacter, hbyte⟩ := mem_map.mp hmem
    have hprintable := (boundedModelName_printable modelName).2 character hcharacter
    rw [← hbyte]
    exact decide_eq_true (printable_byte hprintable).1
  rw [modelNameBytes_toList, takeWhile_append_of_pos hnonzero, replicate_succ,
    takeWhile_cons_of_neg (by simp), append_nil]

theorem carriedName_encode (capacity : Nat) (status : ChildBatteryStatus) (modelName : String)
    (lane : ChildBatteryLane) (generationId : GenerationId) :
    ((present capacity status modelName).encode lane generationId).carriedName =
      boundedModelName modelName := by
  unfold Battery.HfxUapiChildBattery.carriedName encode
  dsimp only
  rw [takeWhile_modelNameBytes, map_map]
  have hchars : (boundedModelName modelName).toList.map
      ((fun byte : UInt8 => Char.ofNat byte.toNat) ∘ fun character => UInt8.ofNat character.toNat) =
        (boundedModelName modelName).toList := by
    calc
      _ = (boundedModelName modelName).toList.map id := by
        apply map_congr_left
        intro character hmem
        exact printable_char ((boundedModelName_printable modelName).2 character hmem)
      _ = _ := map_id _
  rw [hchars, String.ofList_toList]

theorem boundedModelName_trimmed (modelName : String) :
    (boundedModelName modelName).toList.reverse.dropWhile (· = ' ') =
      (boundedModelName modelName).toList.reverse := by
  unfold boundedModelName
  rw [String.toList_ofList, reverse_reverse, dropWhile_idempotent (fun character => decide (character = ' '))]

theorem boundedModelName_bounded (modelName : String)
    (h : ¬ manufacturerPrefix.isPrefixOf (boundedModelName modelName).toList) :
    boundedModelName (boundedModelName modelName) = boundedModelName modelName := by
  obtain ⟨hlength, hprintable⟩ := boundedModelName_printable modelName
  have htrimmed := boundedModelName_trimmed modelName
  generalize boundedModelName modelName = name at h hlength hprintable htrimmed ⊢
  unfold boundedModelName
  have hfilter : (name.toList.filter fun character => ' ' ≤ character ∧ character ≤ '~') = name.toList :=
    filter_eq_self.mpr hprintable
  dsimp only
  rw [if_neg h, hfilter, take_of_length_le hlength, htrimmed, reverse_reverse, String.ofList_toList]

theorem boundedModelName_shorter (name : String) (h : manufacturerPrefix.isPrefixOf name.toList) :
    (boundedModelName name).toList.length < name.toList.length := by
  have hlong := (List.isPrefixOf_iff_prefix.mp h).length_le
  have hmanufacturer : manufacturerPrefix.length = 6 := by decide
  unfold boundedModelName
  rw [String.toList_ofList, length_reverse, if_pos h]
  have hkept : ((name.toList.drop manufacturerPrefix.length).filter fun character =>
      ' ' ≤ character ∧ character ≤ '~').length ≤ name.toList.length - manufacturerPrefix.length := by
    rw [← length_drop]
    exact length_filter_le _ _
  generalize (name.toList.drop manufacturerPrefix.length).filter _ = kept at hkept ⊢
  have htrimmed := (dropWhile_sublist (· = ' ') (l := (kept.take modelNameLimit).reverse)).length_le
  rw [length_reverse, length_take] at htrimmed
  omega

/-- The record passes the driver's check, and carries the name of the state unless that name, already
bounded, begins with the manufacturer once more. -/
theorem carried_name_agrees (lane : ChildBatteryLane) (generationId : GenerationId) (capacity : Nat)
    (status : ChildBatteryStatus) (modelName : String) :
    hfxBatteryCheckReport ((presentBounded capacity status modelName).encode lane generationId) = .valid ∧
      (((presentBounded capacity status modelName).encode lane generationId).carriedName =
          boundedModelName modelName ↔
        ¬ manufacturerPrefix.isPrefixOf (boundedModelName modelName).toList) := by
  constructor
  · exact encode_valid _ lane generationId
  unfold presentBounded
  rw [carriedName_encode]
  constructor
  · intro hsame hhead
    have hshorter := boundedModelName_shorter _ hhead
    rw [hsame] at hshorter
    omega
  · exact boundedModelName_bounded modelName

theorem repeated_manufacturer_lost :
    boundedModelName "Razer Razer Naga" = "Razer Naga" ∧
      ((presentBounded 50 .charging "Razer Razer Naga").encode .pointer
        (.lit 1)).carriedName = "Naga" := by
  decide +kernel

end HyperfluxNext

import CardPayments.Proofs.Decimal.Written
import CardPayments.Proofs.Json.RoundTrip
import CardPayments.Proofs.Time.Instant
import CardPayments.Wire.Value

/-! # Single values read back

Each kind of value that stands in a field of a record is written so that its reader gives it back
from the text. -/
set_option autoImplicit false

namespace CardPayments

namespace Json

/-- The value stands in a text from which a reader gets `v`. -/
structure Gives {α : Type} (j : Json) (read : Json → Option α) (v : α) : Prop where
  plain : j.Plain
  read : read j = some v
  /-- An optional value cannot be taken for a missing one. -/
  filled : j ≠ .null

section

variable {α β : Type} {j : Json} {v : α}

theorem Gives.text {read : Json → Option α} (gives : j.Gives read v) :
    (parseText j.render).bind read = some v := by
  rw [parseText_render gives.plain, Option.bind_some, gives.read]

theorem plain_ofOption {write : α → Json} {o : Option α}
    (plain : ∀ a, o = some a → (write a).Plain) : (ofOption write o).Plain := by
  cases o with
  | none => trivial
  | some a => exact plain a rfl

theorem optional_none (read : Json → Option α) : optional read none = some none := rfl

theorem optional_ofOption {write : α → Json} {read : Json → Option β} (keep : α → β)
    {o : Option α} (gives : ∀ a, o = some a → (write a).Gives read (keep a)) :
    optional read (some (ofOption write o)) = some (o.map keep) := by
  cases o with
  | none => rfl
  | some a =>
      obtain ⟨_, read, filled⟩ := gives a rfl
      rw [ofOption, optional.eq_def]
      split
      · next missing => cases missing
      · next missing => exact absurd (Option.some.inj missing) filled
      · next given => rw [← Option.some.inj given, read, Option.map_some, Option.map_some]

end

theorem gives_string (s : String) : (Json.string s).Gives readString s :=
  ⟨trivial, rfl, nofun⟩

theorem gives_bool (b : Bool) : (Json.bool b).Gives readBool b :=
  ⟨trivial, rfl, nofun⟩

theorem gives_word (n : UInt64) : (ofWord n).Gives readWord n where
  plain := ⟨n.toNat, rfl⟩
  read := by
    have small : n.toNat < Nat.pow 2 64 := n.toNat_lt
    simp only [ofWord, readWord, Numeral.word?, Numeral.integer?_ofNat]
    rw [if_pos ⟨rfl, small⟩, UInt64.ofNat_toNat]
  filled := nofun

theorem gives_decimal (a : Decimal) : (ofDecimal a).Gives readDecimal a where
  plain := trivial
  read := by
    rw [ofDecimal, readDecimal, Decimal.toText, String.toList_ofList, Decimal.ofNumeral?_toList]
  filled := nofun

/-- A case without data is written by its name. -/
theorem gives_name {α : Type} {read : String → Option α} {name : String} {v : α}
    (named : read name = some v) : (Json.string name).Gives (fun j => j.readName.bind read) v :=
  ⟨trivial, named, nofun⟩

end Json

namespace Uuid

theorem readDigits_hexDigits (u : Uuid) : readDigits (Text.hexDigits 32 u.bits.toNat) = some u := by
  have small : u.bits.toNat % Nat.pow 16 32 = u.bits.toNat := Nat.mod_eq_of_lt u.bits.isLt
  rw [readDigits, if_pos (Text.length_hexDigits 32 _), Text.hexFrom_hexDigits, small,
    Option.map_some, ofNat, BitVec.ofNat_toNat, BitVec.setWidth_eq]

theorem exists_groups {ds : List Char} (long : ds.length = 32) :
    ∃ a b c d e : List Char, a.length = 8 ∧ b.length = 4 ∧ c.length = 4 ∧ d.length = 4 ∧
      e.length = 12 ∧ ds = a ++ b ++ c ++ d ++ e := by
  refine ⟨ds.take 8, (ds.drop 8).take 4, (ds.drop 12).take 4, (ds.drop 16).take 4, ds.drop 20,
    ?_, ?_, ?_, ?_, ?_, ?_⟩
  case refine_6 =>
    rw [← List.take_add, ← List.take_add, ← List.take_add, List.take_append_drop]
  all_goals simp [long]

/-- Of 32 digits the groups leave nothing out. -/
theorem readGrouped_grouped {ds : List Char} (long : ds.length = 32) :
    (grouped ds).length = 36 ∧ readGrouped (grouped ds) = readDigits ds := by
  obtain ⟨a, b, c, d, e, la, lb, lc, ld, le, rfl⟩ := exists_groups long
  have written : grouped (a ++ b ++ c ++ d ++ e) =
      a ++ '-' :: (b ++ '-' :: (c ++ '-' :: (d ++ '-' :: e))) := by
    simp [grouped, List.drop_append, List.drop_eq_nil_of_le, la, lb, lc, ld]
  rw [readGrouped, written]
  constructor
  · simp [la, lb, lc, ld, le]
  · have digits : (a ++ '-' :: (b ++ '-' :: (c ++ '-' :: (d ++ '-' :: e)))).take 8 ++
        ((a ++ '-' :: (b ++ '-' :: (c ++ '-' :: (d ++ '-' :: e)))).drop 9).take 4 ++
        ((a ++ '-' :: (b ++ '-' :: (c ++ '-' :: (d ++ '-' :: e)))).drop 14).take 4 ++
        ((a ++ '-' :: (b ++ '-' :: (c ++ '-' :: (d ++ '-' :: e)))).drop 19).take 4 ++
        (a ++ '-' :: (b ++ '-' :: (c ++ '-' :: (d ++ '-' :: e)))).drop 24 =
          a ++ b ++ c ++ d ++ e := by
      simp [List.drop_append, List.drop_eq_nil_of_le, la, lb, lc, ld]
    simp only [digits, written, if_true]

theorem ofList?_toList (u : Uuid) : ofList? u.toList = some u := by
  obtain ⟨long, read⟩ := readGrouped_grouped (Text.length_hexDigits 32 u.bits.toNat)
  rw [ofList?, toList, if_neg (by omega), if_pos long, read, readDigits_hexDigits]

theorem gives (u : Uuid) : u.toJson.Gives Uuid.ofJson u where
  plain := trivial
  read := by
    rw [toJson, ofJson, Json.readString, Option.bind_some, toText, String.toList_ofList,
      ofList?_toList]
  filled := nofun

end Uuid

theorem Instant.Plain.gives {t : Instant} (plain : t.Plain) : t.toJson.Gives Instant.ofJson t where
  plain := trivial
  read := by
    rw [toJson, ofJson, Json.readString, Option.bind_some, toText, String.toList_ofList,
      ofList?_toList plain]
  filled := nofun

theorem Amount.gives (a : Amount) : a.toJson.Gives Amount.ofJson a where
  plain := trivial
  read := by
    rw [ofJson, toJson, (Json.gives_decimal a.value).read, Option.bind_some, ofDecimal?_value]
  filled := nofun

theorem ResponseCode.gives (code : ResponseCode) : code.toJson.Gives ResponseCode.ofJson code :=
  ⟨trivial, rfl, nofun⟩

namespace Currency

theorem capital_range {c : Char} (capital : c.isUpper = true) : 65 ≤ c.toNat ∧ c.toNat ≤ 90 := by
  obtain ⟨lower, upper⟩ : 'A'.val ≤ c.val ∧ c.val ≤ 'Z'.val := of_decide_eq_true capital
  exact ⟨UInt32.le_iff_toNat_le.mp lower, UInt32.le_iff_toNat_le.mp upper⟩

theorem isBlank_capital {c : Char} (capital : c.isUpper = true) : Text.isBlank c = false := by
  have range := capital_range capital
  simp only [Text.isBlank, Bool.or_eq_false_iff, Bool.and_eq_false_iff, beq_eq_false_iff_ne,
    decide_eq_false_iff_not, ne_eq]
  omega

theorem toUpper_capital {c : Char} (capital : c.isUpper = true) : c.toUpper = c := by
  have notSmall : ¬ ('a'.val ≤ c.val ∧ c.val ≤ 'z'.val) := by
    rintro ⟨small, _⟩
    have lower : 97 ≤ c.toNat := UInt32.le_iff_toNat_le.mp small
    have upper := (capital_range capital).2
    omega
  exact dif_neg notSmall

/-- The code of a currency has no blanks and no small letters. -/
theorem ofText?_code (currency : Currency) : ofText? currency.code = some currency := by
  obtain ⟨code, wellFormed⟩ := currency
  have capitals : ∀ c ∈ code.toList, c.isUpper = true := by
    simp only [isCurrencyCode, Bool.and_eq_true, List.all_eq_true] at wellFormed
    exact wellFormed.2
  have upper : code.toList.map Char.toUpper = code.toList := by
    rw [List.map_congr_left fun c member => toUpper_capital (capitals c member), List.map_id']
  have trimmed : Text.trimList code.toList = code.toList :=
    Text.trimList_of_visible fun c member => isBlank_capital (capitals c member)
  have same : Text.upperAscii (Text.trim code) = code := by
    rw [Text.trim, trimmed, Text.upperAscii, String.toList_ofList, upper, String.ofList_toList]
  rw [ofText?, dif_pos (by rw [same]; exact wellFormed)]
  simp only [same]

theorem gives (currency : Currency) : currency.toJson.Gives Currency.ofJson currency where
  plain := trivial
  read := by rw [toJson, ofJson, Json.readString, Option.bind_some, ofText?_code]
  filled := nofun

end Currency

theorem Scheme.gives (scheme : Scheme) : scheme.toJson.Gives Scheme.ofJson scheme :=
  Json.gives_name (Scheme.ofName?_name scheme)

theorem Status.gives (status : Status) : status.toJson.Gives Status.ofJson status :=
  Json.gives_name (Status.ofName?_name status)

theorem Exemption.gives (exemption : Exemption) :
    exemption.toJson.Gives Exemption.ofJson exemption :=
  Json.gives_name (Exemption.ofName?_name exemption)

theorem Initiator.gives (initiator : Initiator) :
    initiator.toJson.Gives Initiator.ofJson initiator :=
  Json.gives_name (Initiator.ofName?_name initiator)

theorem CaptureStatus.gives (status : CaptureStatus) :
    status.toJson.Gives CaptureStatus.ofJson status :=
  Json.gives_name (CaptureStatus.ofName?_name status)

theorem ReversalStatus.gives (status : ReversalStatus) :
    status.toJson.Gives ReversalStatus.ofJson status :=
  Json.gives_name (ReversalStatus.ofName?_name status)

end CardPayments

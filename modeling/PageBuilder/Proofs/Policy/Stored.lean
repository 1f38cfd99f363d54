import PageBuilder.Policy.Registry
import PageBuilder.Proofs.Json.Fields

/-!
# Policies are read back

The four layers of a registry are read back from their stored form. An allowed set that is not there
is left out or stored as `null`, which keeps it apart from one that is there and empty; a denied set
is left out when it is empty.
-/

namespace PageBuilder
namespace Policy

/-! ### Style values -/

instance : LawfulCodec ValueKind where
  decode_encode k := by cases k <;> rfl
  encode_ne_null k := by cases k <;> exact nofun

instance : LawfulCodec StyleSpec where
  decode_encode m := by
    simp only [decode, encode]
    simp
  encode_ne_null _ := nofun

instance : LawfulCodec StyleLists where
  decode_encode l := by
    simp only [decode, encode]
    simp
  encode_ne_null _ := nofun

instance : LawfulCodec GlobalStyles where
  decode_encode g := by
    simp only [decode, encode]
    simp
  encode_ne_null _ := nofun

/-! ### Tags and components -/

instance : LawfulCodec TagPolicy where
  decode_encode t := by
    simp only [decode, encode]
    simp
  encode_ne_null _ := nofun

instance : LawfulCodec PropSchema where
  decode_encode p := by
    simp only [decode, encode]
    simp
  encode_ne_null _ := nofun

instance : LawfulCodec Component where
  decode_encode c := by
    simp only [decode, encode]
    simp
  encode_ne_null _ := nofun

/-! ### Layers that take away -/

theorem eq_empty_of_isEmpty {s : NameSet} (h : s.isEmpty = true) : s = .empty := by
  obtain ⟨names, hnames⟩ := s
  obtain rfl : names = [] := List.isEmpty_iff.1 h
  rfl

/-- A denial of nothing is left out, and filled in again. -/
instance : LawfulCodec Narrowing where
  decode_encode n := by
    simp only [decode, encode]
    by_cases h : n.deny.isEmpty = true
    · have hdeny : NameSet.empty = n.deny := (eq_empty_of_isEmpty h).symm
      simp [h, hdeny]
    · simp [h]
  encode_ne_null _ := nofun

instance : LawfulCodec OverlayEntry where
  decode_encode e := by
    simp only [decode, encode]
    simp
  encode_ne_null _ := nofun

instance : LawfulCodec ComponentPolicy where
  decode_encode p := by
    simp only [decode, encode]
    simp
  encode_ne_null _ := nofun

instance : LawfulCodec Filter where
  decode_encode f := by
    simp only [decode, encode]
    simp
  encode_ne_null _ := nofun

instance : LawfulCodec Template where
  decode_encode t := by
    simp only [decode, encode]
    simp
  encode_ne_null _ := nofun

/-! ### The registry -/

instance : LawfulCodec Registry where
  decode_encode r := by
    simp only [decode, encode]
    simp
  encode_ne_null _ := nofun

end Policy
end PageBuilder

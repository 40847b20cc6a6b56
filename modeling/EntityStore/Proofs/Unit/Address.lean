import EntityStore.Unit
import EntityStore.Proofs.Text.Hex
/-!
# Addresses of shared memory

The address of a unit's shared memory can be read back: the name's bytes stand in it as pairs of
digits, between a fixed beginning and a `?`, which is no digit (`nameBytes?_sharedAddress`).  So
units with different names, of whatever characters, have different addresses
(`sharedAddress_inj`).
-/

namespace EntityStore

/-! ## 1. Digits -/

theorem hexDigit_ne_questionMark {n : Nat} (h : n < 16) : hexDigit n ≠ '?' := by
  have hall : ∀ n < 16, hexDigit n ≠ '?' := by decide
  exact hall n h

theorem ne_questionMark_of_mem_digits {bytes : List UInt8} {c : Char}
    (h : c ∈ bytes.flatMap hexByte) : c ≠ '?' := by
  obtain ⟨b, -, hc⟩ := List.mem_flatMap.mp h
  have hb : b.toNat < 256 := b.toNat_lt
  simp only [hexByte, List.mem_cons, List.not_mem_nil, or_false] at hc
  rcases hc with rfl | rfl
  · exact hexDigit_ne_questionMark (by omega)
  · exact hexDigit_ne_questionMark (by omega)

/-! ## 2. Addresses -/

namespace PersistenceUnit

/-- The bytes of a name, read from an address. -/
def nameBytes? (address : String) : Option (List UInt8) :=
  hexBytes? ((address.toList.drop "file:mimic-unit-".length).takeWhile (· ≠ '?'))

/-- **The name can be read back from the address.** -/
theorem nameBytes?_sharedAddress (u : PersistenceUnit) :
    nameBytes? u.sharedAddress = some u.name.toUTF8.toList := by
  have hname : (u.sharedAddress.toList.drop "file:mimic-unit-".length).takeWhile (· ≠ '?') =
      u.name.toUTF8.toList.flatMap hexByte := by
    simp only [sharedAddress, String.toList_append, String.toList_ofList, List.append_assoc]
    rw [List.drop_left' String.length_toList, List.takeWhile_append_of_pos]
    · exact List.append_nil _
    · intro c hc
      simpa using ne_questionMark_of_mem_digits hc
  rw [nameBytes?, hname, hexBytes?_digits]

/-- **Units have the same address exactly if they have the same name.** -/
theorem sharedAddress_inj {u v : PersistenceUnit} :
    u.sharedAddress = v.sharedAddress ↔ u.name = v.name := by
  constructor
  · intro h
    have hbytes := nameBytes?_sharedAddress u
    rw [h, nameBytes?_sharedAddress] at hbytes
    exact (eq_of_bytes (Option.some.inj hbytes)).symm
  · intro h
    unfold sharedAddress
    rw [h]

end PersistenceUnit

end EntityStore

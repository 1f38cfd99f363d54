import PageBuilder.Event.Effect
import PageBuilder.Proofs.Design.Stored
import PageBuilder.Proofs.Policy.Stored

/-!
# What is stored is read back

Commands and notices are read back like the records of a design and of the policies. So a project,
its parts, a registry, a command and a notice can be saved and loaded any number of times: whatever
was omitted, `null` or of an unknown kind when it was first read, the value stays the one that was
read then.
-/

namespace PageBuilder

instance : LawfulCodec Command where
  decode_encode c := by
    simp only [decode]
    cases c <;> simp only [encode] <;> simp [Command.kind]
  encode_ne_null _ := nofun

instance : LawfulCodec UInt16 where
  decode_encode n := by
    show (if 0 ≤ (n.toNat : Int) ∧ (n.toNat : Int) < (UInt16.size : Nat) then
      Except.ok (UInt16.ofNat (n.toNat : Int).toNat) else .error _) = _
    rw [ite_natural_of_lt n.toNat_lt, Int.toNat_natCast, UInt16.ofNat_toNat]
  encode_ne_null _ := nofun

instance : LawfulCodec Notice where
  decode_encode n := by
    simp only [decode]
    cases n <;> simp only [encode] <;> simp [Notice.type]
  encode_ne_null _ := nofun

/-- Every value of a stored type is read back from what was written, and so is every value that was
itself read. -/
theorem records_read_back :
    (∀ n : Node, decode (encode n) = .ok n) ∧ (∀ p : Project, decode (encode p) = .ok p) ∧
    (∀ r : Policy.Registry, decode (encode r) = .ok r) ∧
    (∀ s : StyleSheet, decode (encode s) = .ok s) ∧
    (∀ c : Command, decode (encode c) = .ok c) ∧ (∀ s : Step, decode (encode s) = .ok s) ∧
    (∀ b : ActionBag, decode (encode b) = .ok b) ∧ (∀ e : FlowEdge, decode (encode e) = .ok e) ∧
    ∀ n : Notice, decode (encode n) = .ok n :=
  ⟨LawfulCodec.decode_encode, LawfulCodec.decode_encode, LawfulCodec.decode_encode,
    LawfulCodec.decode_encode, LawfulCodec.decode_encode, LawfulCodec.decode_encode,
    LawfulCodec.decode_encode, LawfulCodec.decode_encode, LawfulCodec.decode_encode⟩

end PageBuilder

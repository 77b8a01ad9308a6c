/-
# Request numbers as JSON

A request's number is written as a whole number, and every whole number of 32
bits with a sign, and nothing else, is read as one.
-/
import DirectorySessions.Identifier
import DirectorySessions.Proofs.Json.Written

namespace DirectorySessions.RequestId

open Json

theorem ofInt_toInt (id : RequestId) : ofInt id.toInt = id := by
  cases id
  simp [ofInt, toInt]

theorem toJson_injective {id id' : RequestId} (h : id.toJson = id'.toJson) : id = id' := by
  have hint : id.toInt = id'.toInt := by
    simpa [toJson, Value.ofInt] using h
  rw [← ofInt_toInt id, hint, ofInt_toInt]

theorem toInt_bounds (id : RequestId) :
    IntegerKind.i32.least ≤ id.toInt ∧ id.toInt ≤ IntegerKind.i32.greatest :=
  ⟨Int32.le_toInt id.value, Int32.toInt_le id.value⟩

theorem toInt_ofInt {i : Int} (hleast : IntegerKind.i32.least ≤ i)
    (hgreatest : i ≤ IntegerKind.i32.greatest) : (ofInt i).toInt = i :=
  Int32.toInt_ofInt_of_le hleast (Int.lt_add_one_of_le hgreatest)

theorem ofNode_eq_ok {n : Node} {v : Value} (hn : n.Spells v) (id : RequestId) :
    ofNode n = .ok id ↔ v = id.toJson := by
  simp only [ofNode, map_eq_ok, hn.readInteger_eq_ok]
  constructor
  · rintro ⟨i, ⟨rfl, hleast, hgreatest⟩, rfl⟩
    rw [toJson, toInt_ofInt hleast hgreatest]
  · rintro rfl
    exact ⟨id.toInt, ⟨rfl, id.toInt_bounds⟩, id.ofInt_toInt⟩

theorem ofNode_toJson (id : RequestId) : ofNode id.toJson.toNode = .ok id :=
  (ofNode_eq_ok (Value.toNode_spells _) id).2 rfl

theorem placeless_ofNode : Placeless ofNode := placeless_of_iff fun hn => ofNode_eq_ok hn

end DirectorySessions.RequestId
